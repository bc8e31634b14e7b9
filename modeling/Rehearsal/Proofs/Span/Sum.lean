import Mathlib.Algebra.Order.Field.Rat
import Mathlib.Data.Nat.Cast.Field
import Mathlib.Data.Rat.Cast.Order
import Mathlib.Tactic.Linarith
import Mathlib.Tactic.Positivity
import Mathlib.Tactic.Ring
import Rehearsal.Proofs.Span.Grammar
import Rehearsal.Proofs.Traversal

/-!
Terms added up. Each number, each count of seconds or nanoseconds and each carry has to fit a word; where they do, a sum is exact
or refused. The one sum that is neither comes to the first span that is too long.
-/
namespace Rehearsal.Span

def limit : Nat := wordLimit * nanosPerSecond

theorem wordLimit_eq : wordLimit = 18446744073709551616 := rfl

theorem limit_eq : limit = 18446744073709551616000000000 := rfl

theorem ofNanos?_eq_some {n : Nat} {s : Span} : ofNanos? n = some s ↔ s.nanos = n := by
  rw [ofNanos?]
  constructor
  · intro found
    split at found
    · exact (congrArg Span.nanos (Option.some.inj found)).symm
    · cases found
  · rintro rfl
    exact dif_pos s.nanos_lt

theorem ofNanos?_eq_none {n : Nat} : ofNanos? n = none ↔ limit ≤ n := by
  rw [ofNanos?]
  constructor
  · intro none
    split at none
    · cases none
    · rename_i large
      exact Nat.le_of_not_lt large
  · exact fun large => dif_neg (Nat.not_lt.mpr large)

theorem nanos_eq (s : Span) : s.seconds * nanosPerSecond + s.subNanos = s.nanos := Nat.div_add_mod' s.nanos nanosPerSecond

section
variable {total s : Span} {seconds nanos : Nat}

theorem add?_eq_ok (added : add? total seconds nanos = .ok s) : s.nanos = total.nanos + seconds * nanosPerSecond + nanos := by
  unfold add? at added
  dsimp only at added
  split at added
  · cases added
  · split at added
    · rename_i found
      cases added
      exact ofNanos?_eq_some.mp found
    · split at added <;> cases added

/-- The one sum that breaks off is that of the seconds a word counts to and one more. -/
theorem add?_eq_broken (broken : add? total seconds nanos = .error .brokenCarry) :
    total.nanos + seconds * nanosPerSecond + nanos = limit := by
  unfold add? at broken
  dsimp only at broken
  split at broken
  · cases broken
  · split at broken
    · cases broken
    · split at broken
      · rename_i carry
        obtain ⟨carried, last⟩ := carry
        calc total.nanos + seconds * nanosPerSecond + nanos
          _ = (total.seconds + seconds) * nanosPerSecond + (total.subNanos + nanos) := by rw [← nanos_eq total]; ring
          _ = (total.seconds + seconds + 1) * nanosPerSecond := by rw [carried]; ring
          _ = limit := by rw [last, limit]
      · cases broken

theorem add?_of_fits (words : seconds < wordLimit) (carries : nanos + nanosPerSecond ≤ wordLimit)
    (fits : total.nanos + seconds * nanosPerSecond + nanos < limit) : ∃ s, add? total seconds nanos = .ok s := by
  have below : total.subNanos < nanosPerSecond := Nat.mod_lt _ (by decide)
  have small : ¬ (wordLimit ≤ seconds ∨ wordLimit ≤ nanos ∨ wordLimit ≤ total.subNanos + nanos) := by omega
  unfold add?
  dsimp only
  rw [if_neg small]
  cases found : ofNanos? (total.nanos + seconds * nanosPerSecond + nanos) with
  | some s => exact ⟨s, rfl⟩
  | none => exact absurd (ofNanos?_eq_none.mp found) (Nat.not_le.mpr fits)

end

namespace Scale

theorem seconds_exact {s : Scale} (long : nanosPerSecond ≤ s.nanos) : s.nanos / nanosPerSecond * nanosPerSecond = s.nanos := by
  revert long
  cases s <;> decide

theorem grain_exact {s : Scale} {grain : Nat} (fine : s.grain? = some grain) : s.nanos / grain * grain = s.nanos := by
  cases s <;> cases fine <;> decide

theorem grain_cases {s : Scale} {grain : Nat} (fine : s.grain? = some grain) : grain = 1 ∨ grain = nanosPerSecond := by
  cases s <;> cases fine <;> decide

end Scale

theorem split_exact (s : Scale) (n : Nat) : (split s n).1 * nanosPerSecond + (split s n).2 = n * s.nanos := by
  unfold split
  split
  · next long => rw [Nat.add_zero, Nat.mul_assoc, Scale.seconds_exact long]
  · rw [Nat.zero_mul, Nat.zero_add]

def part? (s : Scale) (f : Fraction) : Option (Nat × Nat) :=
  match s.grain? with
  | none => none
  | some grain =>
    let count := f.numerator * (s.nanos / grain)
    if wordLimit ≤ count ∨ count % f.denominator ≠ 0 then none
    else if grain = 1 then some (0, count / f.denominator)
    else some (count / f.denominator, 0)

section
variable {s : Scale} {unit : List Char} (named : Scale.ofName? (.ofList unit) = some s) (total : Span) (n : Nat)
include named

theorem addUnits?_whole : addUnits? total n none unit = add? total (split s n).1 (split s n).2 := by
  rw [addUnits?, named]
  exact bind_pure _

theorem addUnits?_fraction (f : Fraction) :
    addUnits? total n (some f) unit = add? total (split s n).1 (split s n).2 >>= fun total =>
      match part? s f with
      | none => .error .overflow
      | some (seconds, nanos) => add? total seconds nanos := by
  rw [addUnits?, named]
  refine bind_congr fun total => ?_
  rw [part?]
  cases s.grain? with
  | none => rfl
  | some grain =>
    dsimp only
    split_ifs <;> rfl

end

theorem part?_exact {s : Scale} {f : Fraction} {seconds nanos : Nat} (positive : f.denominator ≠ 0)
    (found : part? s f = some (seconds, nanos)) :
    ((seconds * nanosPerSecond + nanos : ℕ) : ℚ) = f.numerator / f.denominator * s.nanos := by
  rw [part?] at found
  split at found
  · cases found
  · next grain fine =>
    dsimp only at found
    split_ifs at found with refused one
    all_goals
      have divides : f.denominator ∣ f.numerator * (s.nanos / grain) :=
        Nat.dvd_of_mod_eq_zero (not_not.mp (not_or.mp refused).2)
      have nonzero : (f.denominator : ℚ) ≠ 0 := Nat.cast_ne_zero.mpr positive
      have grains : ((f.numerator * (s.nanos / grain) / f.denominator * grain : ℕ) : ℚ) = f.numerator / f.denominator * s.nanos := by
        have nanos : (s.nanos : ℚ) = (s.nanos / grain : ℕ) * grain := by rw [← Nat.cast_mul, Scale.grain_exact fine]
        rw [Nat.cast_mul, Nat.cast_div divides nonzero, Nat.cast_mul, nanos]
        ring
      cases found
    · rw [← grains, one, Nat.zero_mul, Nat.zero_add, Nat.mul_one]
    · rw [← grains, (Scale.grain_cases fine).resolve_left one, Nat.add_zero]

def plus (total : Span) (t : Term) : Except Fault Span :=
  if wordLimit ≤ number t.whole then .error .overflow
  else match t.fraction with
    | none => addUnits? total (number t.whole) none t.unit
    | some f =>
      if wordLimit ≤ 10 ^ places f then .error .overflow
      else addUnits? total (number t.whole) (some ⟨number f, 10 ^ places f⟩) t.unit

namespace Term

def wholeNanos (t : Term) : Nat := number t.whole * t.scale.nanos

variable (t : Term)

theorem value_eq : t.value = t.wholeNanos + part t.fraction * t.scale.nanos := by
  rw [value, wholeNanos, Nat.cast_mul, add_mul]

theorem value_of_whole {t : Term} (whole : t.fraction = none) : t.value = t.wholeNanos := by
  rw [value_eq, whole, part, zero_mul, add_zero]

theorem part_nonneg (fraction : Option (List Char)) : 0 ≤ part fraction := by
  cases fraction with
  | none => exact le_refl 0
  | some f =>
    rw [part]
    positivity

theorem value_nonneg : 0 ≤ t.value := by
  have part := part_nonneg t.fraction
  rw [value]
  positivity

end Term

def addWhole (total : Span) (t : Term) : Except Fault Span :=
  add? total (split t.scale (number t.whole)).1 (split t.scale (number t.whole)).2

def addPart (total : Span) (t : Term) (f : List Char) : Except Fault Span :=
  match part? t.scale ⟨number f, 10 ^ places f⟩ with
  | none => .error .overflow
  | some (seconds, nanos) => add? total seconds nanos

section
variable {t : Term} {total s : Span} {f : List Char}

theorem plus_whole (digits : number t.whole < wordLimit) (shape : t.fraction = none) : plus total t = addWhole total t := by
  rw [plus, if_neg (Nat.not_le.mpr digits), shape]
  exact addUnits?_whole (Scale.ofName?_iff.mpr t.named) total _

theorem plus_fraction (digits : number t.whole < wordLimit) (shape : t.fraction = some f) (short : 10 ^ places f < wordLimit) :
    plus total t = addWhole total t >>= fun total => addPart total t f := by
  rw [plus, if_neg (Nat.not_le.mpr digits), shape]
  dsimp only
  rw [if_neg (Nat.not_le.mpr short)]
  exact addUnits?_fraction (Scale.ofName?_iff.mpr t.named) total _ _

/-- A sum is refused for its digits, or adds what stands before the point and then what stands behind it. -/
theorem plus_cases (total : Span) (t : Term) : plus total t = .error .overflow ∨
    (t.fraction = none ∧ plus total t = addWhole total t) ∨
    ∃ f, t.fraction = some f ∧ plus total t = addWhole total t >>= fun total => addPart total t f := by
  by_cases digits : wordLimit ≤ number t.whole
  · exact .inl (if_pos digits)
  · have digits := Nat.lt_of_not_le digits
    cases shape : t.fraction with
    | none => exact .inr (.inl ⟨rfl, plus_whole digits shape⟩)
    | some f =>
      by_cases long : wordLimit ≤ 10 ^ places f
      · left
        rw [plus, if_neg (Nat.not_le.mpr digits), shape]
        exact if_pos long
      · exact .inr (.inr ⟨f, rfl, plus_fraction digits shape (Nat.lt_of_not_le long)⟩)

theorem addWhole_eq_ok (added : addWhole total t = .ok s) : s.nanos = total.nanos + t.wholeNanos := by
  rw [add?_eq_ok added, Nat.add_assoc, split_exact, Term.wholeNanos]

theorem addWhole_eq_broken (broken : addWhole total t = .error .brokenCarry) : total.nanos + t.wholeNanos = limit := by
  rw [← add?_eq_broken broken, Nat.add_assoc, split_exact, Term.wholeNanos]

/-- The units of a term in the sum that its part is added to make up its value with it. -/
theorem added_part {mid : Span} {seconds nanos : Nat} (shape : t.fraction = some f) (whole : addWhole total t = .ok mid)
    (found : part? t.scale ⟨number f, 10 ^ places f⟩ = some (seconds, nanos)) :
    ((mid.nanos + seconds * nanosPerSecond + nanos : ℕ) : ℚ) = total.nanos + t.value := by
  have grains := part?_exact (by positivity) found
  rw [Nat.add_assoc, Nat.cast_add, grains, addWhole_eq_ok whole, t.value_eq, shape, Term.part]
  push_cast
  ring

theorem plus_eq_ok (added : plus total t = .ok s) : (s.nanos : ℚ) = total.nanos + t.value := by
  obtain refused | ⟨shape, sum⟩ | ⟨f, shape, sum⟩ := plus_cases total t
  · cases refused.symm.trans added
  · rw [addWhole_eq_ok (sum.symm.trans added), Nat.cast_add, Term.value_of_whole shape]
  · obtain ⟨mid, whole, added⟩ := bind_eq_ok.mp (sum.symm.trans added)
    rw [addPart] at added
    split at added
    · cases added
    · next seconds nanos found => rw [add?_eq_ok added, added_part shape whole found]

/-- A sum breaks off where the units before the point, or they and the part behind it, reach the limit and do not pass it. -/
theorem plus_eq_broken (broken : plus total t = .error .brokenCarry) :
    total.nanos + t.wholeNanos = limit ∨ (total.nanos : ℚ) + t.value = limit := by
  obtain refused | ⟨-, sum⟩ | ⟨f, shape, sum⟩ := plus_cases total t
  · cases refused.symm.trans broken
  · exact .inl (addWhole_eq_broken (sum.symm.trans broken))
  · obtain broken | ⟨mid, whole, broken⟩ := bind_eq_error.mp (sum.symm.trans broken)
    · exact .inl (addWhole_eq_broken broken)
    · rw [addPart] at broken
      split at broken
      · cases broken
      · next seconds nanos found => exact .inr (by rw [← add?_eq_broken broken, added_part shape whole found])

end

/-- The counts of a term fit their words: below a second its nanoseconds leave room for a carry, and what stands behind its point
has nineteen digits at most and is a whole number of grains that a word holds. -/
structure Term.Fits (t : Term) : Prop where
  count : t.scale.nanos < nanosPerSecond → t.wholeNanos + nanosPerSecond ≤ wordLimit
  part : ∀ f, t.fraction = some f → 10 ^ places f < wordLimit ∧ ∃ grain, t.scale.grain? = some grain ∧
    number f * (t.scale.nanos / grain) < wordLimit ∧ 10 ^ places f ∣ number f * (t.scale.nanos / grain)

section
variable {t : Term}

theorem split_of_fits (fits : t.Fits) (below : t.wholeNanos < limit) :
    number t.whole < wordLimit ∧ (split t.scale (number t.whole)).1 < wordLimit ∧
      (split t.scale (number t.whole)).2 + nanosPerSecond ≤ wordLimit := by
  have positive : 1 ≤ t.scale.nanos := by cases t.scale <;> decide
  by_cases long : nanosPerSecond ≤ t.scale.nanos
  · have seconds : number t.whole * (t.scale.nanos / nanosPerSecond) < wordLimit := by
      rw [Term.wholeNanos, ← Scale.seconds_exact long, ← Nat.mul_assoc] at below
      exact Nat.lt_of_mul_lt_mul_right below
    have unit : 1 ≤ t.scale.nanos / nanosPerSecond := (Nat.le_div_iff_mul_le (by decide)).mpr (by rwa [Nat.one_mul])
    have fewer := Nat.le_mul_of_pos_right (number t.whole) unit
    simp only [split, if_pos long]
    exact ⟨by omega, seconds, by decide⟩
  · have count := fits.count (Nat.lt_of_not_le long)
    have fewer : number t.whole ≤ t.wholeNanos := Nat.le_mul_of_pos_right _ positive
    have second : 0 < nanosPerSecond := by decide
    simp only [split, if_neg long]
    exact ⟨by omega, by decide, count⟩

theorem part?_of_fits {f : List Char} (fits : t.Fits) (shape : t.fraction = some f) :
    ∃ seconds nanos, part? t.scale ⟨number f, 10 ^ places f⟩ = some (seconds, nanos) ∧ seconds < wordLimit ∧
      nanos + nanosPerSecond ≤ wordLimit := by
  obtain ⟨-, grain, fine, small, divides⟩ := fits.part f shape
  have tenth : number f * (t.scale.nanos / grain) / 10 ^ places f ≤ number f * (t.scale.nanos / grain) / 10 :=
    Nat.div_le_div_left (Nat.le_self_pow (Term.places_pos shape).ne' 10) (by decide)
  have kept : ¬ (wordLimit ≤ number f * (t.scale.nanos / grain) ∨ number f * (t.scale.nanos / grain) % 10 ^ places f ≠ 0) := by
    rw [Nat.mod_eq_zero_of_dvd divides]
    omega
  have second : nanosPerSecond = 1000000000 := rfl
  have word := wordLimit_eq
  simp only [part?, fine, if_neg kept]
  split_ifs
  · exact ⟨_, _, rfl, by decide, by omega⟩
  · exact ⟨_, _, rfl, by omega, by decide⟩

theorem plus_of_fits (total : Span) (fits : t.Fits) (below : (total.nanos : ℚ) + t.value < limit) : ∃ s, plus total t = .ok s := by
  have part := mul_nonneg (Term.part_nonneg t.fraction) (Nat.cast_nonneg (α := ℚ) t.scale.nanos)
  have wholeBelow : total.nanos + t.wholeNanos < limit := by
    rw [t.value_eq] at below
    exact_mod_cast (by linarith : (total.nanos : ℚ) + t.wholeNanos < limit)
  obtain ⟨digits, words, carries⟩ := split_of_fits fits (by omega)
  have room : total.nanos + (split t.scale (number t.whole)).1 * nanosPerSecond + (split t.scale (number t.whole)).2 < limit := by
    rwa [Nat.add_assoc, split_exact]
  obtain ⟨mid, whole⟩ : ∃ s, addWhole total t = .ok s := add?_of_fits words carries room
  cases shape : t.fraction with
  | none => exact ⟨mid, (plus_whole digits shape).trans whole⟩
  | some f =>
    obtain ⟨seconds, nanos, found, words, carries⟩ := part?_of_fits fits shape
    have room : mid.nanos + seconds * nanosPerSecond + nanos < limit := by
      rw [← added_part shape whole found] at below
      exact_mod_cast below
    obtain ⟨s, added⟩ := add?_of_fits words carries room
    have part : addPart mid t f = .ok s := by
      rw [addPart, found]
      exact added
    rw [plus_fraction digits shape (fits.part f shape).1]
    exact ⟨s, bind_eq_ok.mpr ⟨mid, whole, part⟩⟩

end

section
variable {total s : Span} {terms : List Term}

theorem sum_cons (t : Term) (terms : List Term) : sum (t :: terms) = t.value + sum terms := by
  rw [sum, List.map_cons, List.sum_cons, sum]

theorem sum_nonneg (terms : List Term) : 0 ≤ sum terms := by
  induction terms with
  | nil => exact le_refl 0
  | cons t rest ih =>
    rw [sum_cons]
    exact add_nonneg t.value_nonneg ih

theorem foldlM_plus_eq_ok (added : terms.foldlM plus total = .ok s) : (s.nanos : ℚ) = total.nanos + sum terms := by
  induction terms generalizing total with
  | nil =>
    cases added
    exact (add_zero _).symm
  | cons t rest ih =>
    obtain ⟨mid, first, added⟩ := bind_eq_ok.mp added
    rw [ih added, plus_eq_ok first, sum_cons, add_assoc]

/-- What breaks a sum off: units of a term, or they and the part behind its point, with which it reaches the limit. -/
theorem foldlM_plus_eq_broken (broken : terms.foldlM plus total = .error .brokenCarry) :
    ∃ before t after, terms = before ++ t :: after ∧
      (total.nanos + sum before + t.wholeNanos = limit ∨ total.nanos + sum before + t.value = limit) := by
  induction terms generalizing total with
  | nil => cases broken
  | cons t rest ih =>
    obtain broken | ⟨mid, first, broken⟩ := bind_eq_error.mp broken
    · refine ⟨[], t, rest, rfl, ?_⟩
      have reached := plus_eq_broken broken
      simp only [sum, List.map_nil, List.sum_nil, add_zero]
      exact_mod_cast reached
    · obtain ⟨before, t', after, rfl, reached⟩ := ih broken
      refine ⟨t :: before, t', after, rfl, ?_⟩
      rwa [sum_cons, ← add_assoc, ← plus_eq_ok first]

theorem foldlM_plus_of_fits (total : Span) (fits : ∀ t ∈ terms, t.Fits) (below : total.nanos + sum terms < limit) :
    ∃ s, terms.foldlM plus total = .ok s := by
  induction terms generalizing total with
  | nil => exact ⟨total, rfl⟩
  | cons t rest ih =>
    rw [sum_cons, ← add_assoc] at below
    have others := sum_nonneg rest
    obtain ⟨mid, first⟩ := plus_of_fits total (fits t List.mem_cons_self) (by linarith)
    rw [← plus_eq_ok first] at below
    obtain ⟨s, added⟩ := ih mid (fun t member => fits t (List.mem_cons_of_mem _ member)) below
    exact ⟨s, bind_eq_ok.mpr ⟨mid, first, added⟩⟩

end
end Rehearsal.Span
