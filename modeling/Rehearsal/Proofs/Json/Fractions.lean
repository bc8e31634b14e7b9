import Mathlib.Logic.Basic
import Rehearsal.Proofs.Decimal.Finite
import Rehearsal.Proofs.Json.Numeral

/-!
Numbers with a fraction or a power. What is read as one is finite; and it is set down with a point or a power, so that its
text is not that of a whole number.
-/
namespace Rehearsal.Decimal

theorem dropZeros_positive {n : Nat} (positive : n ≠ 0) (fuel : Nat) (e : Int) : (dropZeros fuel n e).digits ≠ 0 := by
  induction fuel generalizing n e with
  | zero => exact positive
  | succ fuel ih =>
    rw [dropZeros]
    split
    · exact ih (by omega) _
    · exact positive

theorem onGrid?_positive {h : Neighbourhood} {e : Int} {d : Digits} (found : onGrid? h e = some d) : d.digits ≠ 0 := by
  simp only [onGrid?] at found
  split at found
  · rename_i both
    obtain rfl := Option.some.inj found
    simp only [Bool.and_eq_true, decide_eq_true_eq] at both
    dsimp only
    split
    · exact both.1.2
    · exact Nat.succ_ne_zero _
  split at found
  · rename_i below
    obtain rfl := Option.some.inj found
    simp only [Bool.and_eq_true, decide_eq_true_eq] at below
    exact below.2
  split at found
  · obtain rfl := Option.some.inj found
    simp
  · cases found

/-- Only nothing is shown by nothing but zeros. -/
theorem shortest_cases (x : Binary64) : shortest x = ⟨0, 0⟩ ∨ (shortest x).digits ≠ 0 := by
  simp only [shortest]
  split
  · exact .inl rfl
  · split
    · rename_i d found
      obtain ⟨n, -, there⟩ := List.exists_of_findSome?_eq_some found
      exact .inr (dropZeros_positive (onGrid?_positive there) _ _)
    · exact .inl rfl

end Rehearsal.Decimal
namespace Rehearsal.Json
open Decimal

namespace Numeral

def IsBroken (n : Numeral) : Prop := n.fraction.isSome = true ∨ n.power.isSome = true

theorem isDigits_append {front back : List Char} (first : IsDigits front) (more : ∀ c ∈ back, c.isDigit = true) :
    IsDigits (front ++ back) := by
  refine ⟨fun empty => first.1 (List.append_eq_nil_iff.mp empty).1, fun c member => ?_⟩
  obtain there | there := List.mem_append.mp member
  · exact first.2 c there
  · exact more c there

theorem zeros_isDigit (n : Nat) : ∀ c ∈ zeros n, c.isDigit = true := by
  intro c member
  rw [List.eq_of_mem_replicate member]
  rfl

theorem isDigits_toDigits (n : Nat) : IsDigits (Nat.toDigits 10 n) := ⟨Nat.toDigits_ne_nil, digits_isDigit n⟩

def pointed : List Char → List Char
  | c :: r@(_ :: _) => c :: '.' :: r
  | one => one

section
variable {text : List Char} (digits : IsDigits text)
include digits

theorem IsDigits.take {n : Nat} (some : n ≠ 0) : IsDigits (text.take n) :=
  ⟨by simp [digits.1, some], fun c member => digits.2 c (List.mem_of_mem_take member)⟩

theorem IsDigits.drop {n : Nat} (few : n < text.length) : IsDigits (text.drop n) :=
  ⟨by simp; omega, fun c member => digits.2 c (List.mem_of_mem_drop member)⟩

/-- Digits behind a zero, a point and more zeros. -/
theorem proper_small (n : Nat) : Proper ⟨false, ['0'], some (zeros n ++ text), none⟩ where
  whole := by simp [IsDigits]
  short _ := rfl
  fraction := by
    rintro _ ⟨⟩
    refine ⟨by simp [digits.1], fun c member => ?_⟩
    obtain zero | there := List.mem_append.mp member
    · exact zeros_isDigit n c zero
    · exact digits.2 c there
  power := nofun

variable (lead : text.head? ≠ some '0')
include lead

/-- Digits with zeros behind them. -/
theorem proper_large (n : Nat) : Proper ⟨false, text ++ zeros n, some ['0'], none⟩ where
  whole := isDigits_append digits (zeros_isDigit n)
  short starts := by
    rw [List.head?_append, Option.or_of_isSome (List.isSome_head?.mpr digits.1)] at starts
    exact absurd starts lead
  fraction := by simp [IsDigits]
  power := nofun

/-- Digits with a point between them. -/
theorem proper_middle {n : Nat} (front : n ≠ 0) (back : n < text.length) :
    Proper ⟨false, text.take n, some (text.drop n), none⟩ where
  whole := digits.take front
  short starts := by
    rw [List.head?_take, if_neg front] at starts
    exact absurd starts lead
  fraction := by
    rintro _ ⟨⟩
    exact digits.drop back
  power := nofun

omit lead in
theorem exists_powered (negative : Bool) {power : List Char} (powered : IsDigits power) :
    ∃ n : Numeral, n.Proper ∧ n.power = some (negative, power) ∧ n.negative = false ∧ n.chars = pointed text ++ powerText n.power := by
  cases text with
  | nil => exact absurd rfl digits.1
  | cons c rest =>
    have first : IsDigits [c] := digits.take (n := 1) (by decide)
    cases rest with
    | nil => exact ⟨⟨false, [c], none, some (negative, power)⟩, ⟨first, fun _ => rfl, nofun, by simpa using powered⟩, rfl, rfl, rfl⟩
    | cons d more =>
      have others : IsDigits (d :: more) := digits.drop (n := 1) (by simp)
      exact ⟨⟨false, [c], some (d :: more), some (negative, power)⟩,
        ⟨first, fun _ => rfl, by simpa using others, by simpa using powered⟩, rfl, rfl, rfl⟩

end

theorem exists_digits (d : Digits) (shown : d = ⟨0, 0⟩ ∨ d.digits ≠ 0) :
    ∃ n : Numeral, n.Proper ∧ n.IsBroken ∧ n.negative = false ∧ n.chars = d.render floatText := by
  obtain rfl | positive := shown
  · refine ⟨⟨false, ['0'], some ['0'], none⟩, ⟨?_, ?_, ?_, ?_⟩, .inl rfl, rfl, by decide⟩ <;> simp [IsDigits]
  have digits := isDigits_toDigits d.digits
  have lead := head_digits d.digits positive
  simp only [Digits.render]
  generalize Nat.toDigits 10 d.digits = text at digits lead
  split
  · split
    · exact ⟨_, proper_large digits lead d.exponent.toNat, .inl rfl, rfl, by simp [chars, fractionText, powerText]⟩
    split
    · exact ⟨_, proper_middle (n := (d.exponent + text.length - 1 + 1).toNat) digits lead (by omega) (by omega), .inl rfl, rfl, by simp [chars, fractionText, powerText]⟩
    · exact ⟨_, proper_small digits _, .inl rfl, rfl, by simp [chars, fractionText, powerText]; rfl⟩
  · obtain ⟨n, proper, power, sign, said⟩ :=
      exists_powered digits (decide (d.exponent + text.length - 1 < 0)) (isDigits_toDigits (d.exponent + text.length - 1).natAbs)
    refine ⟨n, proper, .inr (by simp [power]), sign, ?_⟩
    rw [said, power]
    by_cases small : d.exponent + text.length - 1 < 0 <;> simp [powerText, floatText, small] <;> rfl

end Numeral

/-- A finite number is set down as a numeral with a fraction or a power. -/
theorem exists_float {x : Binary64} (finite : x.isFinite = true) :
    ∃ n : Numeral, n.Proper ∧ n.IsBroken ∧ n.chars = (Number.float x).render := by
  obtain ⟨number, bounded⟩ := Binary64.isFinite_iff.mp finite
  obtain ⟨n, ⟨whole, short, fraction, power⟩, broken, sign, text⟩ := Numeral.exists_digits (shortest x) (shortest_cases x)
  refine ⟨{ n with negative := x.negative }, ⟨whole, short, fraction, power⟩, broken, ?_⟩
  simp only [Number.render, Binary64.render, number, bounded, ← text, Numeral.chars, sign]
  simp

namespace Number

def isFinite : Number → Bool
  | .int _ => true
  | .float x => x.isFinite

end Number

theorem takeWord_lt {n : Nat} (small : n < wordLimit) (digits : List Char) : (takeWord n digits).1 < wordLimit := by
  induction digits generalizing n with
  | nil => exact small
  | cons c rest ih =>
    simp only [takeWord]
    split
    · exact ih ‹_›
    · exact small

theorem exponent_powerOfTen : (powerOfTen 308).exponent = 971 := by decide +kernel

theorem raise?_finite {x y : Binary64} {fuel : Nat} {e : Int} (finite : x.isFinite = true) (raised : raise? x fuel e = some y) :
    y.isFinite = true := by
  induction fuel generalizing x e with
  | zero =>
    obtain rfl := Option.some.inj raised
    exact finite
  | succ fuel ih =>
    rw [raise?] at raised
    by_cases near : e.natAbs ≤ 308
    · have number : (if 0 ≤ e then x.mul (powerOfTen e.natAbs) else x.div (powerOfTen e.natAbs)).isNaN = false := by
        split
        · exact Binary64.isNaN_mul ..
        · exact Binary64.isNaN_div ..
      rw [if_pos near] at raised
      generalize (if 0 ≤ e then x.mul (powerOfTen e.natAbs) else x.div (powerOfTen e.natAbs)) = z at number raised
      by_cases infinite : z.isInfinite = true
      · simp [infinite] at raised
      · simp only [infinite] at raised
        obtain rfl := Option.some.inj raised
        exact Binary64.isFinite_iff.mpr ⟨number, Bool.eq_false_iff.mpr infinite⟩
    · rw [if_neg near] at raised
      by_cases zero : x.isZero = true
      · rw [if_pos zero] at raised
        obtain rfl := Option.some.inj raised
        exact finite
      · rw [if_neg zero] at raised
        by_cases large : 0 ≤ e
        · simp [large] at raised
        · rw [if_neg large] at raised
          refine ih (Binary64.isFinite_div ?_) raised
          rw [exponent_powerOfTen]
          exact Binary64.exponent_le finite

theorem isFinite_ofNat {n : Nat} (small : n < wordLimit) : (Binary64.ofNat n).isFinite = true := by
  refine Binary64.isFinite_ofRatio _ _ ?_
  by_cases zero : n = 0
  · simp [zero]
  · exact Nat.lt_of_lt_of_le ((Nat.log2_lt zero).mpr small) (by decide)

/-- However far the point is moved, what is raised from a word is finite. -/
theorem raised_finite {m : Nat} {shift : Int} {negative : Bool} {x : Binary64} (small : m < wordLimit)
    (read : ((raise? (.ofNat m) 4 shift).bind fun x => some (if negative then x.neg else x)) = some x) : x.isFinite = true := by
  obtain ⟨y, there, signed⟩ := Option.bind_eq_some_iff.mp read
  have finite := raise?_finite (isFinite_ofNat small) there
  obtain rfl := Option.some.inj signed
  split
  · rw [Binary64.isFinite_neg, finite]
  · exact finite

theorem Numeral.float?_finite {t : Numeral} {x : Binary64} (read : t.float? = some x) : x.isFinite = true := by
  have word := takeWord_lt (by decide : 0 < wordLimit) t.whole
  obtain ⟨negative, whole, fraction, power⟩ := t
  simp only [float?] at read
  cases fraction with
  | none =>
    cases power with
    | none => exact raised_finite word read
    | some p =>
      simp only at read
      split at read
      · exact raised_finite word read
      split at read
      · exact raised_finite word read
      · cases read
  | some digits =>
    have longer := takeWord_lt word digits
    cases power with
    | none => exact raised_finite longer read
    | some p =>
      simp only at read
      split at read
      · exact raised_finite longer read
      split at read
      · exact raised_finite longer read
      · cases read

/-- No number that was read is infinite, or none at all. -/
theorem Numeral.value?_finite {t : Numeral} {n : Number} (read : t.value? = some n) : n.isFinite = true := by
  rw [value?, ite_eq_iff] at read
  obtain ⟨-, whole⟩ | ⟨-, binary⟩ := read
  · obtain rfl := Option.some.inj whole
    rfl
  · obtain ⟨x, float, rfl⟩ := Option.map_eq_some_iff.mp binary
    exact float?_finite float

end Rehearsal.Json
