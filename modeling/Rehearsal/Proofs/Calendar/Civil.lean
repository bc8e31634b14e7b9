import Mathlib.Tactic.IntervalCases
import Rehearsal.Calendar
import Rehearsal.Toml.Scalar

/-!
Dates counted day by day: years by the rule of leap years, months by their lengths. The calendar's arithmetic of eras that
begin in March comes to the same, and every day is a date.
-/
namespace Rehearsal.Calendar
open Toml (isLeap monthLength)

def yearLength (y : Nat) : Nat := if isLeap y then 366 else 365

def daysBefore : Nat → Nat
  | 0 => 0
  | y + 1 => daysBefore y + yearLength y

def monthsThrough (y : Nat) : Nat → Nat
  | 0 => 0
  | m + 1 => monthsThrough y m + monthLength y (m + 1)

def dayNumber (y m d : Nat) : Int :=
  daysBefore y + monthsThrough y (m - 1) + (d - 1 : Nat) - daysBefore 1970

def isDate (y m d : Nat) : Bool := 1 ≤ m && m ≤ 12 && 1 ≤ d && d ≤ monthLength y m

theorem isLeap_iff (y : Nat) : isLeap y = true ↔ y % 4 = 0 ∧ (y % 100 ≠ 0 ∨ y % 400 = 0) := by
  simp [isLeap]

theorem daysBefore_eq (y : Nat) : daysBefore y + (y + 99) / 100 = 365 * y + (y + 3) / 4 + (y + 399) / 400 := by
  induction y with
  | zero => rfl
  | succ y ih =>
    rw [daysBefore, yearLength]
    have leap := isLeap_iff y
    by_cases rule : isLeap y = true
    · have divides := leap.mp rule
      rw [if_pos rule]
      omega
    · have common : ¬(y % 4 = 0 ∧ (y % 100 ≠ 0 ∨ y % 400 = 0)) := fun divides => rule (leap.mpr divides)
      rw [if_neg rule]
      omega

theorem daysBefore_mono {y z : Nat} (le : y ≤ z) : daysBefore y ≤ daysBefore z := by
  induction le with
  | refl => exact Nat.le_refl _
  | step _ ih => exact Nat.le_trans ih (Nat.le_add_right _ _)

theorem daysBefore_epoch : daysBefore 1970 = 719528 := by
  have closed := daysBefore_eq 1970
  omega

/-- The first of March of a year, behind the leap day if there is one. -/
theorem daysBefore_march (y : Nat) :
    daysBefore y + monthsThrough y 2 + y / 100 = 365 * y + y / 4 + y / 400 + 60 := by
  have january := daysBefore_eq y
  have leap := isLeap_iff y
  have through : monthsThrough y 2 = 31 + if isLeap y then 29 else 28 := by
    simp [monthsThrough, Toml.monthLength]
  by_cases rule : isLeap y = true
  · have divides := leap.mp rule
    rw [through, if_pos rule]
    omega
  · have common : ¬(y % 4 = 0 ∧ (y % 100 ≠ 0 ∨ y % 400 = 0)) := fun divides => rule (leap.mpr divides)
    rw [through, if_neg rule]
    omega

/-- Behind `c` centuries, `q` times four years and `i` years of an era, on a day of the year that follows. -/
theorem yearOfDay_parts {c q i s : Nat} (hc : c ≤ 3) (hq : q ≤ 24) (hi : i ≤ 3) (low : 365 * i ≤ s)
    (high : s < 365 * i + 365 ∨ i = 3 ∧ s = 1460 ∧ q ≤ 23) :
    yearOfDay (36524 * c + 1461 * q + s) = 100 * c + 4 * q + i ∧
      yearStart (100 * c + 4 * q + i) = 36524 * c + 1461 * q + 365 * i := by
  unfold yearOfDay yearStart
  have centuries : (36524 * c + 1461 * q + s) / 36524 = c := by omega
  have era : (36524 * c + 1461 * q + s) / 146096 = 0 := by omega
  have fours : (36524 * c + 1461 * q + s) / 1460 = 25 * c + q + (24 * c + q + s) / 1460 := by omega
  have leaps : (100 * c + 4 * q + i) / 4 = 25 * c + q := by omega
  have skipped : (100 * c + 4 * q + i) / 100 = c := by omega
  rw [centuries, era, fours, leaps, skipped]
  constructor
  · have carry : (24 * c + q + s) / 1460 ≤ 1 := by omega
    generalize (24 * c + q + s) / 1460 = e at *
    interval_cases i <;> omega
  · omega

/-- A day of an era is in the year of the era that it is reckoned to; the leap day ends the year. -/
theorem yearOfDay_spec {n : Nat} (inside : n < 146097) :
    yearOfDay n < 400 ∧ yearStart (yearOfDay n) ≤ n ∧
      n < yearStart (yearOfDay n) + 365 + if isLeap (yearOfDay n + 1) then 1 else 0 := by
  by_cases last : n = 146096
  · subst last
    decide
  -- The last day of a century's last year is the next century's first, but for the leap day of the era.
  obtain ⟨c, r, hc, hr, rfl⟩ : ∃ c r, c ≤ 3 ∧ r < 36524 ∧ n = 36524 * c + r :=
    ⟨n / 36524, n % 36524, by omega, by omega, by omega⟩
  obtain ⟨q, s, hq, hs, rfl⟩ : ∃ q s, q ≤ 24 ∧ (s < 1460 ∨ s = 1460 ∧ q ≤ 23) ∧ r = 1461 * q + s :=
    ⟨r / 1461, r % 1461, by omega, by omega, by omega⟩
  obtain ⟨i, hi, low, high⟩ : ∃ i, i ≤ 3 ∧ 365 * i ≤ s ∧ (s < 365 * i + 365 ∨ i = 3 ∧ s = 1460 ∧ q ≤ 23) := by
    by_cases leapDay : s = 1460
    · exact ⟨3, by omega, by omega, by omega⟩
    · exact ⟨s / 365, by omega, by omega, by omega⟩
  obtain ⟨year, start⟩ := yearOfDay_parts hc hq hi low high
  have parts : 36524 * c + (1461 * q + s) = 36524 * c + 1461 * q + s := by omega
  rw [parts, year, start]
  refine ⟨by omega, by omega, ?_⟩
  rcases high with common | ⟨third, leapDay, most⟩
  · omega
  · have leap : isLeap (100 * c + 4 * q + i + 1) = true := (isLeap_iff _).mpr (by omega)
    rw [if_pos leap]
    omega

/-- The months from March on have lengths that do not depend on the year, but for the last, February. -/
theorem month_of_day {k : Nat} (inside : k < 366) :
    let m := (5 * k + 2) / 153
    m ≤ 11 ∧ monthStart m ≤ k ∧ (m ≤ 10 → k < monthStart (m + 1)) := by
  simp only [monthStart]
  omega

theorem monthsThrough_march (y : Nat) {m : Nat} (h : m ≤ 9) : monthsThrough y (m + 2) = monthsThrough y 2 + monthStart m := by
  interval_cases m <;> simp [monthsThrough, Toml.monthLength, monthStart]

theorem monthsThrough_december (y : Nat) : monthsThrough y 12 = yearLength y := by
  unfold yearLength
  by_cases rule : isLeap y = true <;> simp [monthsThrough, Toml.monthLength, rule]

theorem monthLength_le (y m : Nat) : Toml.monthLength y m ≤ 31 := by
  unfold Toml.monthLength
  repeat' split
  all_goals decide

theorem monthsThrough_mono (y : Nat) {m n : Nat} (le : m ≤ n) : monthsThrough y m ≤ monthsThrough y n := by
  induction le with
  | refl => exact Nat.le_refl _
  | step _ ih => exact Nat.le_trans ih (Nat.le_add_right _ _)

theorem isDate_iff (y m d : Nat) :
    isDate y m d = true ↔ (1 ≤ m ∧ m ≤ 12) ∧ 1 ≤ d ∧ d ≤ Toml.monthLength y m := by
  simp [isDate, and_assoc]

/-- The days of a date lie in its year. -/
theorem year_bounds {y m d : Nat} (date : isDate y m d = true) :
    daysBefore y ≤ dayNumber y m d + daysBefore 1970 ∧ dayNumber y m d + daysBefore 1970 < daysBefore (y + 1) := by
  obtain ⟨⟨first, last⟩, positive, short⟩ := (isDate_iff y m d).mp date
  obtain ⟨k, rfl⟩ : ∃ k, m = k + 1 := ⟨m - 1, by omega⟩
  have before : monthsThrough y (k + 1) = monthsThrough y k + Toml.monthLength y (k + 1) := rfl
  have whole := monthsThrough_mono y last
  rw [monthsThrough_december] at whole
  have next : daysBefore (y + 1) = daysBefore y + yearLength y := rfl
  simp only [dayNumber, Nat.add_sub_cancel]
  omega

/-- The months of a year that begins in March, as they are numbered from January. -/
theorem dayNumber_march (y : Nat) {m : Nat} (h : m ≤ 11) (d : Nat) :
    dayNumber (if 10 ≤ m then y + 1 else y) (if 10 ≤ m then m - 9 else m + 3) (d + 1) =
      (daysBefore y + monthsThrough y 2 + monthStart m + d : Nat) - daysBefore 1970 := by
  by_cases january : 10 ≤ m
  · have year : daysBefore (y + 1) = daysBefore y + monthsThrough y 2 + 306 := by
      have whole := monthsThrough_december y
      have rest : monthsThrough y 12 = monthsThrough y 2 + 306 := by
        simp [monthsThrough, Toml.monthLength]
      rw [daysBefore, ← whole, rest]
      omega
    have month : monthsThrough (y + 1) (m - 9 - 1) + 306 = monthStart m := by
      interval_cases m <;> simp [monthsThrough, Toml.monthLength, monthStart]
    rw [if_pos january, if_pos january, dayNumber, year]
    omega
  · have month := monthsThrough_march y (show m ≤ 9 by omega)
    have before : m + 3 - 1 = m + 2 := by omega
    rw [if_neg january, if_neg january, dayNumber, before, month]
    omega

theorem monthLength_march (y : Nat) {m : Nat} (h : m ≤ 10) :
    monthStart m + Toml.monthLength (if 10 ≤ m then y + 1 else y) (if 10 ≤ m then m - 9 else m + 3) = monthStart (m + 1) := by
  interval_cases m <;> simp [Toml.monthLength, monthStart]

theorem isLeap_era (e y : Nat) : isLeap (400 * e + y) = isLeap y := by
  rw [Bool.eq_iff_iff, isLeap_iff, isLeap_iff]
  omega

theorem monthLength_era (e y m : Nat) : Toml.monthLength (400 * e + y) m = Toml.monthLength y m := by
  rw [Toml.monthLength, isLeap_era, Toml.monthLength]

/-- A day of an era comes apart into a year, a month from March on, and a day of the month. -/
theorem inEra_parts {n : Nat} (inside : n < 146097) :
    ∃ m d, (5 * (n - yearStart (yearOfDay n)) + 2) / 153 = m ∧ n - yearStart (yearOfDay n) - monthStart m = d ∧ m ≤ 11 ∧
      n = yearStart (yearOfDay n) + monthStart m + d ∧
      d < Toml.monthLength (if 10 ≤ m then yearOfDay n + 1 else yearOfDay n) (if 10 ≤ m then m - 9 else m + 3) := by
  obtain ⟨-, start, turn⟩ := yearOfDay_spec inside
  generalize yearOfDay n = y at start turn ⊢
  obtain ⟨k, rfl⟩ : ∃ k, n = yearStart y + k := ⟨n - yearStart y, by omega⟩
  have inYear : yearStart y + k - yearStart y = k := by omega
  have whole : k < 366 := by split at turn <;> omega
  obtain ⟨hm, begun, ends⟩ := month_of_day whole
  rw [inYear]
  refine ⟨_, _, rfl, rfl, hm, by omega, ?_⟩
  generalize (5 * k + 2) / 153 = m at hm begun ends ⊢
  by_cases february : m = 11
  · subst february
    have short : Toml.monthLength (y + 1) 2 = 28 + if isLeap (y + 1) then 1 else 0 := by
      by_cases rule : isLeap (y + 1) = true <;> simp [Toml.monthLength, rule]
    have begins : monthStart 11 = 337 := rfl
    simp only [Nat.reduceLeDiff, if_true, Nat.reduceSub]
    omega
  · have length := monthLength_march y (show m ≤ 10 by omega)
    have next := ends (by omega)
    omega

theorem march_inEra (e : Nat) {y : Nat} (inside : y < 400) :
    daysBefore (400 * e + y) + monthsThrough (400 * e + y) 2 = 146097 * e + yearStart y + 60 := by
  have march := daysBefore_march (400 * e + y)
  have leaps : (400 * e + y) / 4 = 100 * e + y / 4 := by omega
  have skipped : (400 * e + y) / 100 = 4 * e + y / 100 := by omega
  have kept : (400 * e + y) / 400 = e := by omega
  rw [leaps, skipped, kept] at march
  unfold yearStart
  omega

/-- The year, the month from March on and the day of a count of days from the first of March of the year 0. -/
theorem ofDays_parts (k : Nat) :
    ∃ y m d : Nat, m ≤ 11 ∧ k + 60 = daysBefore y + monthsThrough y 2 + monthStart m + d ∧
      d < Toml.monthLength (if 10 ≤ m then y + 1 else y) (if 10 ≤ m then m - 9 else m + 3) ∧
      Date.ofDays (k - epoch) = {
        year := (if 10 ≤ m then y + 1 else y : Nat)
        month := if 10 ≤ m then m - 9 else m + 3
        day := d + 1 } := by
  have inside : k % 146097 < 146097 := Nat.mod_lt _ (by decide)
  obtain ⟨m, d, month, day, hm, parts, short⟩ := inEra_parts inside
  have eras := Nat.div_add_mod k 146097
  refine ⟨400 * (k / 146097) + yearOfDay (k % 146097), m, d, hm, ?_, ?_, ?_⟩
  · have march := march_inEra (k / 146097) (yearOfDay_spec inside).1
    omega
  · rw [← monthLength_era (k / 146097)] at short
    convert short using 2
    split <;> omega
  · have shifted : (k : Int) - epoch + epoch = k := by omega
    have era : Int.fdiv (k : Int) daysPerEra = (k / 146097 : Nat) := by
      rw [Int.fdiv_eq_ediv_of_nonneg _ (by decide)]; rfl
    have inEra : (Int.fmod (k : Int) daysPerEra).toNat = k % 146097 := by
      rw [Int.fmod_eq_emod_of_nonneg _ (by decide)]; rfl
    simp only [Date.ofDays, shifted, era, inEra, month, day]
    congr 1
    split <;> omega

/-- Every day from the first of March of the year 0 on has a date, which is the one that counting days, months and years
leads to. -/
theorem ofDays_spec {n : Int} (low : -epoch ≤ n) :
    ∃ y : Nat, (Date.ofDays n).year = y ∧ isDate y (Date.ofDays n).month (Date.ofDays n).day = true ∧
      dayNumber y (Date.ofDays n).month (Date.ofDays n).day = n := by
  obtain ⟨k, hk⟩ := Int.eq_ofNat_of_zero_le (show 0 ≤ n + epoch by omega)
  obtain rfl : n = k - epoch := by omega
  obtain ⟨y, m, d, hm, count, short, date⟩ := ofDays_parts k
  rw [date]
  refine ⟨_, rfl, ?_, ?_⟩
  · have month : 1 ≤ (if 10 ≤ m then m - 9 else m + 3) ∧ (if 10 ≤ m then m - 9 else m + 3) ≤ 12 := by split <;> omega
    exact (isDate_iff _ _ _).mpr ⟨month, Nat.succ_pos d, short⟩
  · have origin : epoch + 60 = daysBefore 1970 := by rw [daysBefore_epoch]; rfl
    rw [dayNumber_march y hm]
    omega

end Rehearsal.Calendar
