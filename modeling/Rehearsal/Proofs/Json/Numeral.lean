import Mathlib.Data.List.TakeWhile
import Mathlib.Tactic.IntervalCases
import Rehearsal.Json.Record

/-! A numeral is read as it was set down, and a whole number as it was written, as long as 64 bits hold it. -/
namespace Rehearsal.Json

theorem ofList_intText (n : Int) : String.ofList (intText n) = toString n := by
  cases n with
  | ofNat m => rfl
  | negSucc m =>
    rw [intText, if_pos (Int.negSucc_lt_zero m), String.ofList_append]
    rfl

section
variable (n : Nat)

theorem digits_isDigit : ∀ c ∈ Nat.toDigits 10 n, c.isDigit = true := fun _ member =>
  Nat.isDigit_of_mem_toDigits (by decide) (by decide) member

theorem head_digits (positive : n ≠ 0) : (Nat.toDigits 10 n).head? ≠ some '0' := by
  induction n using Nat.strongRecOn with
  | ind n ih =>
    rw [Nat.toDigits_eq_if (by decide)]
    split
    · rename_i small
      interval_cases n <;> simp at positive ⊢
    · rename_i large
      have shorter := ih (n / 10) (by omega) (by omega)
      rwa [List.head?_append, Option.or_of_isSome (List.isSome_head?.mpr Nat.toDigits_ne_nil)]

theorem natOfDigits_toDigits : natOfDigits (Nat.toDigits 10 n) = n :=
  calc natOfDigits (Nat.toDigits 10 n)
    _ = Nat.ofDigitChars 10 (Nat.toDigits 10 n) 0 := Nat.ofDigitChars_eq_foldl.symm
    _ = n := Nat.ofDigitChars_toDigits (by decide) (by decide)

end

theorem digitsOf_append {digits rest : List Char} (all : ∀ c ∈ digits, c.isDigit = true)
    (ends : ∀ c, rest.head? = some c → c.isDigit = false) : digitsOf (digits ++ rest) = (digits, rest) := by
  have behind : rest.takeWhile Char.isDigit = [] ∧ rest.dropWhile Char.isDigit = rest := by
    cases rest with
    | nil => simp
    | cons c more => simp [ends c rfl]
  rw [digitsOf, List.takeWhile_append_of_pos all, List.dropWhile_append_of_pos all, behind.1, behind.2, List.append_nil]

namespace Numeral

def fractionText : Option (List Char) → List Char
  | none => []
  | some digits => '.' :: digits

def powerText : Option (Bool × List Char) → List Char
  | none => []
  | some (negative, digits) => 'e' :: (if negative then '-' else '+') :: digits

def chars (n : Numeral) : List Char :=
  (if n.negative then ['-'] else []) ++ (n.whole ++ (fractionText n.fraction ++ powerText n.power))

def IsDigits (text : List Char) : Prop := text ≠ [] ∧ ∀ c ∈ text, c.isDigit = true

structure Proper (n : Numeral) : Prop where
  whole : IsDigits n.whole
  short : n.whole.head? = some '0' → n.whole.length = 1
  fraction : ∀ digits, n.fraction = some digits → IsDigits digits
  power : ∀ p, n.power = some p → IsDigits p.2

theorem powerText_head {power : Option (Bool × List Char)} {c : Char} (first : (powerText power).head? = some c) : c = 'e' := by
  cases power with
  | none => simp [powerText] at first
  | some p => exact (Option.some.inj first).symm

theorem fractionText_head {fraction : Option (List Char)} {power : Option (Bool × List Char)} {c : Char}
    (first : (fractionText fraction ++ powerText power).head? = some c) : c = '.' ∨ c = 'e' := by
  cases fraction with
  | none => exact .inr (powerText_head first)
  | some digits =>
    exact .inl (Option.some.inj first).symm

theorem powerOf?_powerText {power : Option (Bool × List Char)} (proper : ∀ p, power = some p → IsDigits p.2) :
    powerOf? (powerText power) = some power := by
  cases power with
  | none => rfl
  | some p =>
    obtain ⟨negative, digits⟩ := p
    obtain ⟨present, all⟩ := proper _ rfl
    have read : digitsOf (digits ++ []) = (digits, []) := digitsOf_append all (by simp)
    rw [List.append_nil] at read
    cases negative <;> simp [powerText, powerOf?, read, present]

theorem fractionOf?_fractionText {fraction : Option (List Char)} (proper : ∀ digits, fraction = some digits → IsDigits digits)
    (power : Option (Bool × List Char)) :
    fractionOf? (fractionText fraction ++ powerText power) = some (fraction, powerText power) := by
  have ends : ∀ c, (powerText power).head? = some c → c.isDigit = false := fun c first => by
    rw [powerText_head first]
    rfl
  cases fraction with
  | none =>
    cases power with
    | none => rfl
    | some p => simp [fractionText, powerText, fractionOf?]
  | some digits =>
    obtain ⟨present, all⟩ := proper digits rfl
    simp [fractionText, fractionOf?, digitsOf_append all ends, present]

theorem ofText?_chars {n : Numeral} (proper : n.Proper) : ofText? n.chars = some n := by
  obtain ⟨negative, whole, fraction, power⟩ := n
  obtain ⟨⟨present, all⟩, short, fractional, powered⟩ := proper
  have ends : ∀ c, (fractionText fraction ++ powerText power).head? = some c → c.isDigit = false := fun c first => by
    obtain rfl | rfl := fractionText_head first <;> rfl
  have lead : ¬(whole.isEmpty = true ∨ whole.head? = some '0' ∧ whole.length ≠ 1) := by
    rintro (empty | ⟨zero, long⟩)
    · exact present (List.isEmpty_iff.mp empty)
    · exact long (short zero)
  have unsigned : ∀ more, whole ++ (fractionText fraction ++ powerText power) ≠ '-' :: more := fun more same => by
    cases whole with
    | nil => exact present rfl
    | cons c rest =>
      have sign := all c List.mem_cons_self
      obtain ⟨rfl, -⟩ := List.cons.inj same
      cases sign
  cases negative with
  | true =>
    simp only [ofText?, chars, if_true, List.singleton_append, digitsOf_append all ends, if_neg lead,
      fractionOf?_fractionText fractional, Option.bind_eq_bind, Option.bind_some, powerOf?_powerText powered]
    rfl
  | false =>
    have signless : chars ⟨false, whole, fraction, power⟩ = whole ++ (fractionText fraction ++ powerText power) := rfl
    rw [signless]
    unfold ofText?
    split
    rename_i eq
    split at eq
    · exact absurd ‹_› (unsigned _)
    · cases eq
      simp only [digitsOf_append all ends, if_neg lead, fractionOf?_fractionText fractional, Option.bind_eq_bind,
        Option.bind_some, powerOf?_powerText powered]
      rfl

theorem isNumberChar_of_isDigit {c : Char} (digit : c.isDigit = true) : isNumberChar c = true := by
  simp only [isNumberChar, digit, Bool.true_or]

theorem chars_goes {n : Numeral} (proper : n.Proper) : ∀ c ∈ n.chars, isNumberChar c = true := by
  obtain ⟨negative, whole, fraction, power⟩ := n
  obtain ⟨whole, -, fractional, powered⟩ := proper
  have digits {text : List Char} (proper : IsDigits text) : ∀ c ∈ text, isNumberChar c = true := fun c member =>
    isNumberChar_of_isDigit (proper.2 c member)
  have sign : ∀ c ∈ if negative then ['-'] else [], isNumberChar c = true := by cases negative <;> simp [isNumberChar]
  have fraction : ∀ c ∈ fractionText fraction, isNumberChar c = true := by
    cases fraction with
    | none => exact List.forall_mem_nil _
    | some text => exact List.forall_mem_cons.mpr ⟨rfl, digits (fractional text rfl)⟩
  have power : ∀ c ∈ powerText power, isNumberChar c = true := by
    cases power with
    | none => exact List.forall_mem_nil _
    | some p => exact List.forall_mem_cons.mpr ⟨rfl, List.forall_mem_cons.mpr ⟨by cases p.1 <;> rfl, digits (powered p rfl)⟩⟩
  simp only [chars, List.forall_mem_append]
  exact ⟨sign, digits whole, fraction, power⟩

/-- A sign or a digit comes first. -/
theorem chars_starts {n : Numeral} (proper : n.Proper) : ∃ c more, n.chars = c :: more ∧ (c = '-' ∨ c.isDigit = true) := by
  obtain ⟨negative, whole, fraction, power⟩ := n
  obtain ⟨⟨present, digits⟩, -, -, -⟩ := proper
  cases negative with
  | true => exact ⟨'-', _, rfl, .inl rfl⟩
  | false =>
    cases whole with
    | nil => exact absurd rfl present
    | cons c more => exact ⟨c, _, rfl, .inr (digits c List.mem_cons_self)⟩

section
variable (n : Int)

def ofInt : Numeral := { negative := decide (n < 0), whole := Nat.toDigits 10 n.natAbs, fraction := none, power := none }

theorem proper_ofInt : (ofInt n).Proper where
  whole := ⟨Nat.toDigits_ne_nil, digits_isDigit n.natAbs⟩
  short starts := by
    have zero : n.natAbs = 0 := Decidable.by_contra fun positive => head_digits n.natAbs positive starts
    rw [ofInt, zero]
    rfl
  fraction := nofun
  power := nofun

theorem chars_ofInt : (ofInt n).chars = intText n := by
  simp [intText, chars, ofInt, fractionText, powerText]

theorem ofText?_intText : ofText? (intText n) = some (ofInt n) := by
  rw [← chars_ofInt, ofText?_chars (proper_ofInt n)]

end

theorem fits_iff {n : Int} : Text.fits 64 n = true ↔ -9223372036854775808 ≤ n ∧ n < 18446744073709551616 := by
  simp only [Text.fits, Bool.and_eq_true, decide_eq_true_eq]
  rfl

theorem fits_of_fitsSigned {n : Int} (fits : Text.fitsSigned 64 n = true) : Text.fits 64 n = true := by
  simp only [Text.fitsSigned, Bool.and_eq_true, decide_eq_true_eq] at fits
  have signed : -9223372036854775808 ≤ n ∧ n < 9223372036854775808 := fits
  exact fits_iff.mpr ⟨signed.1, by omega⟩

theorem value?_ofInt {n : Int} (fits : Text.fits 64 n = true) : (ofInt n).value? = some (.int n) := by
  obtain ⟨least, most⟩ := fits_iff.mp fits
  have word : wordLimit = 18446744073709551616 := rfl
  have half : Nat.pow 2 63 = 9223372036854775808 := rfl
  simp only [value?, ofInt, natOfDigits_toDigits, word, half]
  by_cases negative : n < 0
  · have whole : n.natAbs ≠ 0 ∧ n.natAbs ≤ 9223372036854775808 := by omega
    have back : -(n.natAbs : Int) = n := by omega
    simp only [negative, whole, back, decide_true, decide_false, Option.isNone_none, Bool.and_false, Bool.not_false, and_self, if_true]
  · have whole : n.natAbs < 18446744073709551616 := by omega
    have back : (n.natAbs : Int) = n := by omega
    simp only [negative, whole, back, decide_false, Option.isNone_none, Bool.false_and, Bool.not_false, Bool.false_eq_true,
      and_self, if_true, if_false]

theorem ofInt_injective {n m : Int} (same : ofInt n = ofInt m) : n = m := by
  have sign : decide (n < 0) = decide (m < 0) := congrArg negative same
  have digits := congrArg (natOfDigits ∘ whole) same
  have size : n.natAbs = m.natAbs := by simpa [ofInt, natOfDigits_toDigits] using digits
  by_cases negative : n < 0 <;> simp [negative] at sign <;> omega

end Numeral
end Rehearsal.Json
