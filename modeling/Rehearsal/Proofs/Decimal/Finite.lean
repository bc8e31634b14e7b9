import Mathlib.Tactic.Linarith
import Rehearsal.Decimal.Binary64

/-!
Rounding gives a number or an infinite one, and an infinite one only for what is too large. So no operation on finite numbers
gives anything that is no number.
-/
namespace Rehearsal.Decimal.Binary64

def isFinite (x : Binary64) : Bool := x.biased != 2047

theorem isFinite_iff {x : Binary64} : x.isFinite = true ↔ x.isNaN = false ∧ x.isInfinite = false := by
  by_cases largest : x.biased = 2047 <;> simp [isFinite, isNaN, isInfinite, largest]

theorem biased_assemble {negative : Bool} {biased fraction : Nat} (low : biased < 2048) (small : fraction < Nat.pow 2 52) :
    (assemble negative biased fraction).biased = biased := by
  have fifty : Nat.pow 2 52 = 4503599627370496 := rfl
  have sixty : Nat.pow 2 63 = 9223372036854775808 := rfl
  rw [fifty] at small
  simp only [Binary64.biased, assemble, UInt64.toNat_ofNat', fifty, sixty]
  cases negative <;> simp <;> omega

theorem biased_lt (x : Binary64) : x.biased < 2048 := Nat.mod_lt _ (by decide)

theorem fraction_lt (x : Binary64) : x.fraction < Nat.pow 2 52 := Nat.mod_lt _ (by decide)

theorem isFinite_neg (x : Binary64) : x.neg.isFinite = x.isFinite := by
  simp [isFinite, neg, biased_assemble x.biased_lt x.fraction_lt]

theorem divNearest_le {n d c : Nat} (below : n < c * d) : divNearest n d ≤ c := by
  have whole : n / d < c := Nat.div_lt_of_lt_mul (by rwa [Nat.mul_comm])
  simp only [divNearest]
  split <;> omega

theorem divNearest_zero (n : Nat) : divNearest n 0 ≤ 1 := by
  simp only [divNearest, Nat.div_zero]
  split <;> omega

section
variable {n d : Nat} {e : Int}

theorem scaled_of_neg (negative : e < 0) : scaled n d e = (n * 2 ^ e.natAbs, d) := by
  simp [scaled, negative]

theorem scaled_of_nonneg (whole : 0 ≤ e) : scaled n d e = (n, d * 2 ^ e.natAbs) := by
  have notNegative : ¬e < 0 := by omega
  simp [scaled, notNegative]

/- A fraction over a power of two that is as large as the sizes of its parts say, or larger, is below 2 ^ 53. -/
theorem scaled_below (positive : 0 < d) (large : (n.log2 : Int) - d.log2 - 52 ≤ e) :
    (scaled n d e).1 < 2 ^ 53 * (scaled n d e).2 := by
  have above : n < 2 ^ (n.log2 + 1) := Nat.lt_log2_self
  have below : 2 ^ d.log2 ≤ d := Nat.log2_self_le (by omega)
  by_cases negative : e < 0
  · rw [scaled_of_neg negative]
    calc n * 2 ^ e.natAbs
      _ < 2 ^ (n.log2 + 1) * 2 ^ e.natAbs := Nat.mul_lt_mul_of_pos_right above (Nat.two_pow_pos _)
      _ = 2 ^ (n.log2 + 1 + e.natAbs) := (Nat.pow_add ..).symm
      _ ≤ 2 ^ (53 + d.log2) := Nat.pow_le_pow_right (by decide) (by omega)
      _ = 2 ^ 53 * 2 ^ d.log2 := Nat.pow_add ..
      _ ≤ 2 ^ 53 * d := Nat.mul_le_mul_left _ below
  · rw [scaled_of_nonneg (by omega)]
    calc n
      _ < 2 ^ (n.log2 + 1) := above
      _ ≤ 2 ^ (53 + (d.log2 + e.natAbs)) := Nat.pow_le_pow_right (by decide) (by omega)
      _ = 2 ^ 53 * (2 ^ d.log2 * 2 ^ e.natAbs) := by rw [Nat.pow_add, Nat.pow_add]
      _ ≤ 2 ^ 53 * (d * 2 ^ e.natAbs) := Nat.mul_le_mul_left _ (Nat.mul_le_mul_right _ below)

theorem scaled_double {c : Nat} (below : (scaled n d e).1 < c * (scaled n d e).2) :
    (scaled n d (e - 1)).1 < 2 * c * (scaled n d (e - 1)).2 := by
  by_cases positive : 0 < e
  · have next : e.natAbs = (e - 1).natAbs + 1 := by omega
    rw [scaled_of_nonneg (by omega), next, Nat.pow_succ] at below
    rw [scaled_of_nonneg (by omega)]
    linarith
  · have next : (e - 1).natAbs = e.natAbs + 1 := by omega
    rw [scaled_of_neg (by omega), next, Nat.pow_succ]
    by_cases negative : e < 0
    · rw [scaled_of_neg negative] at below
      linarith
    · have zero : e = 0 := by omega
      rw [scaled_of_nonneg (by omega), zero] at below
      simp [zero] at below ⊢
      linarith

end

def unitOf (n d : Nat) : Int :=
  let guess := max ((n.log2 : Int) - d.log2 - 52) (-1074)
  if (scaled n d guess).1 / (scaled n d guess).2 < Nat.pow 2 52 ∧ -1074 < guess then guess - 1 else guess

section
variable (n d : Nat)

theorem unitOf_least : -1074 ≤ unitOf n d := by
  simp only [unitOf]
  split <;> omega

theorem unitOf_most {size : Nat} (small : n.log2 < size) : unitOf n d < size - 52 := by
  simp only [unitOf]
  split <;> omega

theorem mantissa_le : divNearest (scaled n d (unitOf n d)).1 (scaled n d (unitOf n d)).2 ≤ 2 ^ 53 := by
  have fifty : Nat.pow 2 52 = 2 ^ 52 := rfl
  by_cases positive : 0 < d
  · refine divNearest_le ?_
    simp only [unitOf]
    split
    · rename_i halved
      have nonzero : 0 < (scaled n d (max ((n.log2 : Int) - d.log2 - 52) (-1074))).2 := by
        by_cases negative : max ((n.log2 : Int) - d.log2 - 52) (-1074) < 0
        · simpa [scaled_of_neg negative] using positive
        · simpa [scaled_of_nonneg (Int.not_lt.mp negative)] using positive
      have below := (Nat.div_lt_iff_lt_mul nonzero).mp (fifty ▸ halved.1)
      exact scaled_double below
    · exact scaled_below positive (Int.le_max_left ..)
  · have zero : d = 0 := by omega
    have none : ∀ e, (scaled n 0 e).2 = 0 := fun e => by
      simp only [scaled]
      split <;> simp
    rw [zero, none]
    exact Nat.le_trans (divNearest_zero _) (by decide)

end

def placed (negative : Bool) (m : Nat) (e : Int) : Binary64 :=
  if m < Nat.pow 2 52 then assemble negative 0 m
  else if 971 < e then infinity negative
  else assemble negative (e + 1075).toNat (m - Nat.pow 2 52)

theorem placed_cases (negative : Bool) {m : Nat} {e : Int} (most : m < 2 ^ 53) (least : -1074 ≤ e) :
    (placed negative m e).isFinite = true ∨ 971 < e ∧ placed negative m e = infinity negative := by
  have fifty : Nat.pow 2 52 = 4503599627370496 := rfl
  by_cases few : m < Nat.pow 2 52
  · left
    simp [placed, few, isFinite, biased_assemble (by decide : 0 < 2048) few]
  · by_cases large : 971 < e
    · right
      simp [placed, few, large]
    · left
      have low : (e + 1075).toNat < 2047 := by omega
      have rest : m - Nat.pow 2 52 < Nat.pow 2 52 := by omega
      simp only [placed, few, large, if_false, isFinite, biased_assemble (Nat.lt_succ_of_lt low) rest, bne_iff_ne]
      omega

def carried (negative : Bool) (m : Nat) (e : Int) : Binary64 :=
  let (m, e) := if m = Nat.pow 2 53 then (Nat.pow 2 52, e + 1) else (m, e)
  placed negative m e

theorem carried_cases (negative : Bool) {m : Nat} {e : Int} (most : m ≤ 2 ^ 53) (least : -1074 ≤ e) :
    (carried negative m e).isFinite = true ∨ 970 < e ∧ carried negative m e = infinity negative := by
  by_cases full : m = Nat.pow 2 53
  · have halved : carried negative m e = placed negative (Nat.pow 2 52) (e + 1) := by simp [carried, full]
    rw [halved]
    obtain finite | ⟨large, same⟩ := placed_cases negative (by decide : Nat.pow 2 52 < 2 ^ 53) (by omega : -1074 ≤ e + 1)
    · exact .inl finite
    · exact .inr ⟨by omega, same⟩
  · have kept : carried negative m e = placed negative m e := by simp only [carried, if_neg full]
    rw [kept]
    obtain finite | ⟨large, same⟩ := placed_cases negative (Nat.lt_of_le_of_ne most full) least
    · exact .inl finite
    · exact .inr ⟨by omega, same⟩

theorem ofRatio_eq (negative : Bool) {n : Nat} (d : Nat) (positive : n ≠ 0) : ofRatio negative n d =
    carried negative (divNearest (scaled n d (unitOf n d)).1 (scaled n d (unitOf n d)).2) (unitOf n d) := by
  rw [ofRatio, if_neg positive]
  rfl

theorem ofRatio_cases (negative : Bool) (n d : Nat) :
    (ofRatio negative n d).isFinite = true ∨ 970 < unitOf n d ∧ ofRatio negative n d = infinity negative := by
  by_cases zero : n = 0
  · left
    cases negative <;> simp [ofRatio, zero] <;> decide
  · rw [ofRatio_eq negative d zero]
    exact carried_cases negative (mantissa_le n d) (unitOf_least n d)

theorem isNaN_ofRatio (negative : Bool) (n d : Nat) : (ofRatio negative n d).isNaN = false := by
  obtain finite | ⟨-, same⟩ := ofRatio_cases negative n d
  · exact (isFinite_iff.mp finite).1
  · rw [same]
    cases negative <;> decide

theorem isFinite_ofRatio (negative : Bool) {n : Nat} (d : Nat) (small : n.log2 < 1000) : (ofRatio negative n d).isFinite = true := by
  obtain finite | ⟨large, -⟩ := ofRatio_cases negative n d
  · exact finite
  · have unit := unitOf_most n d small
    omega

section
variable (x y : Binary64)

theorem mul_eq : x.mul y = ofRatio (x.negative != y.negative)
    (scaled (x.mantissa * y.mantissa) 1 (-(x.exponent + y.exponent))).1
    (scaled (x.mantissa * y.mantissa) 1 (-(x.exponent + y.exponent))).2 := rfl

theorem div_eq : x.div y = ofRatio (x.negative != y.negative)
    (scaled x.mantissa y.mantissa (-(x.exponent - y.exponent))).1
    (scaled x.mantissa y.mantissa (-(x.exponent - y.exponent))).2 := rfl

theorem isNaN_mul : (x.mul y).isNaN = false := by
  rw [mul_eq, isNaN_ofRatio]

theorem isNaN_div : (x.div y).isNaN = false := by
  rw [div_eq, isNaN_ofRatio]

theorem mantissa_lt : x.mantissa < 2 ^ 53 := by
  have small := x.fraction_lt
  have fifty : Nat.pow 2 52 = 4503599627370496 := rfl
  simp only [mantissa]
  split <;> omega

variable {x y}

/-- What is divided by a number of at least its own power of two stays finite. -/
theorem isFinite_div (below : x.exponent ≤ y.exponent) : (x.div y).isFinite = true := by
  rw [div_eq, scaled_of_nonneg (by omega)]
  refine isFinite_ofRatio _ _ (Nat.lt_of_lt_of_le ?_ (by decide : 53 ≤ 1000))
  by_cases zero : x.mantissa = 0
  · simp [zero]
  · exact (Nat.log2_lt zero).mpr x.mantissa_lt

theorem exponent_le (finite : x.isFinite = true) : x.exponent ≤ 971 := by
  have low := x.biased_lt
  simp only [isFinite, bne_iff_ne] at finite
  simp only [exponent]
  split <;> omega

end

end Rehearsal.Decimal.Binary64
