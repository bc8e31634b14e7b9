import Mathlib.Data.Nat.Digits.Defs
import Rehearsal.Proofs.Calendar.Civil

/-! The texts of instants. From its first years to its last, the calendar writes four digits for the year, and a reader
finds in the text the instant that it was made from. -/
namespace Rehearsal.Calendar

def digits? (width : Nat) (text : List Char) : Option (Nat × List Char) :=
  let front := text.take width
  if front.length = width ∧ front.all Char.isDigit then some (Nat.ofDigitChars 10 front 0, text.drop width) else none

def behind? (mark : Char) : List Char → Option (List Char)
  | c :: rest => if c = mark then some rest else none
  | [] => none

/-- The instant that a text such as `2024-01-01T12:00:00Z` names, in seconds since the start of 1970. -/
def instant? (text : List Char) : Option Int := do
  let (year, text) ← digits? 4 text
  let (month, text) ← digits? 2 (← behind? '-' text)
  let (day, text) ← digits? 2 (← behind? '-' text)
  let (hour, text) ← digits? 2 (← behind? 'T' text)
  let (minute, text) ← digits? 2 (← behind? ':' text)
  let (second, text) ← digits? 2 (← behind? ':' text)
  let text ← behind? 'Z' text
  if text.isEmpty ∧ isDate year month day ∧ hour < 24 ∧ minute < 60 ∧ second < 60 then
    some (dayNumber year month day * secondsPerDay + (3600 * hour + 60 * minute + second : Nat))
  else none

/-- Does a text have the form of `0000-00-00T00:00:00Z`, with any digit for each zero? -/
def isStamp (text : List Char) : Bool :=
  text.map (fun c => if c.isDigit then '0' else c) = "0000-00-00T00:00:00Z".toList

section
variable {width n : Nat}

theorem padded_length (fits : n < 10 ^ width) (wide : 0 < width) : (padded width n).length = width := by
  have digits := Nat.toDigits_length 10 n width wide fits
  simp only [padded, List.length_append, List.length_replicate]
  omega

theorem padded_isDigit : ∀ c ∈ padded width n, c.isDigit = true := by
  intro c member
  rcases List.mem_append.mp member with zero | digit
  · obtain rfl := List.eq_of_mem_replicate zero
    rfl
  · exact Nat.isDigit_of_mem_toDigits (by decide) (by decide) digit

theorem padded_value : Nat.ofDigitChars 10 (padded width n) 0 = n := by
  have zeros (k : Nat) (text : List Char) :
      Nat.ofDigitChars 10 (List.replicate k '0' ++ text) 0 = Nat.ofDigitChars 10 text 0 := by
    induction k with
    | zero => rfl
    | succ k ih => exact ih
  exact (zeros _ _).trans (Nat.ofDigitChars_toDigits (by decide) (by decide))

theorem digits?_padded (fits : n < 10 ^ width) (wide : 0 < width) (rest : List Char) :
    digits? width (padded width n ++ rest) = some (n, rest) := by
  have length := padded_length fits wide
  have front : (padded width n ++ rest).take width = padded width n := List.take_left' length
  have back : (padded width n ++ rest).drop width = rest := List.drop_left' length
  have digits : (padded width n).all Char.isDigit = true := List.all_eq_true.mpr padded_isDigit
  simp only [digits?, front, back, length, digits, and_self, if_true, padded_value]

theorem padded_shape (fits : n < 10 ^ width) (wide : 0 < width) :
    (padded width n).map (fun c => if c.isDigit then '0' else c) = List.replicate width '0' := by
  refine List.eq_replicate_iff.mpr ⟨by rw [List.length_map, padded_length fits wide], ?_⟩
  intro c member
  obtain ⟨digit, within, rfl⟩ := List.mem_map.mp member
  exact if_pos (padded_isDigit digit within)

end

theorem behind?_mark (mark : Char) (rest : List Char) : behind? mark (mark :: rest) = some rest := if_pos rfl

section
variable {year month day hour minute second : Nat}

def stampText (year month day hour minute second : Nat) : List Char :=
  padded 4 year ++ '-' :: padded 2 month ++ '-' :: padded 2 day ++
    'T' :: padded 2 hour ++ ':' :: padded 2 minute ++ ':' :: padded 2 second ++ ['Z']

theorem stampText_isStamp (hy : year < 10000) (hm : month < 100) (hd : day < 100) (hh : hour < 100) (hi : minute < 100)
    (hs : second < 100) : isStamp (stampText year month day hour minute second) = true := by
  have two {n : Nat} (fits : n < 100) : (padded 2 n).map (fun c => if c.isDigit then '0' else c) = ['0', '0'] :=
    padded_shape fits (by decide)
  simp only [isStamp, stampText, List.map_append, List.map_cons, List.map_nil, padded_shape hy (by decide : 0 < 4),
    two hm, two hd, two hh, two hi, two hs]
  decide

theorem instant?_stampText (hy : year < 10000) (date : isDate year month day = true) (hh : hour < 24) (hi : minute < 60)
    (hs : second < 60) :
    instant? (stampText year month day hour minute second) =
      some (dayNumber year month day * secondsPerDay + (3600 * hour + 60 * minute + second : Nat)) := by
  obtain ⟨⟨-, hm⟩, -, hd⟩ := (isDate_iff year month day).mp date
  have longest := monthLength_le year month
  have two {n : Nat} (fits : n < 100) (rest : List Char) : digits? 2 (padded 2 n ++ rest) = some (n, rest) :=
    digits?_padded fits (by decide) rest
  simp only [instant?, stampText, List.append_assoc, List.cons_append, digits?_padded hy (by decide : 0 < 4),
    two (show month < 100 by omega), two (show day < 100 by omega), two (show hour < 100 by omega),
    two (show minute < 100 by omega), two (show second < 100 by omega), behind?_mark, Option.bind_eq_bind, Option.bind_some]
  exact if_pos ⟨rfl, date, hh, hi, hs⟩

end

def yearBegins (y : Nat) : Int := dayNumber y 1 1 * secondsPerDay

theorem yearBegins_eq (y : Nat) : yearBegins y = (daysBefore y - daysBefore 1970) * secondsPerDay := by
  have through : monthsThrough y (1 - 1) = 0 := rfl
  have first : dayNumber y 1 1 = daysBefore y - daysBefore 1970 := by
    unfold dayNumber
    omega
  rw [yearBegins, first]

/-- Between the first of March of the year 0 and the end of the year 9999, a stamp names the instant it is made of. -/
theorem stamp_spec {t : Int} (low : -epoch * secondsPerDay ≤ t) (high : t < yearBegins 10000) :
    isStamp (stamp t).toList = true ∧ instant? (stamp t).toList = some t := by
  obtain ⟨n, s, small, rfl⟩ : ∃ (n : Int) (s : Nat), s < 86400 ∧ t = n * secondsPerDay + s :=
    ⟨t / 86400, (t % 86400).toNat, by omega, by unfold secondsPerDay; omega⟩
  have days : Int.fdiv (n * secondsPerDay + s) secondsPerDay = n := by
    rw [Int.fdiv_eq_ediv_of_nonneg _ (by decide)]
    unfold secondsPerDay
    omega
  have rest : (Int.fmod (n * secondsPerDay + s) secondsPerDay).toNat = s := by
    rw [Int.fmod_eq_emod_of_nonneg _ (by decide)]
    unfold secondsPerDay
    omega
  have first : -epoch ≤ n := by unfold secondsPerDay at low; omega
  obtain ⟨y, year, date, number⟩ := ofDays_spec first
  have short : y < 10000 := by
    by_contra long
    have later := daysBefore_mono (show 10000 ≤ y by omega)
    have within := (year_bounds date).1
    rw [yearBegins_eq] at high
    unfold secondsPerDay at high
    omega
  have text : (stamp (n * secondsPerDay + s)).toList =
      stampText y (Date.ofDays n).month (Date.ofDays n).day (s / 3600) (s % 3600 / 60) (s % 60) := by
    have four : yearText (y : Int) = padded 4 y := if_pos ⟨by omega, by omega⟩
    simp only [stamp, fineStamp, days, rest, year, four, fraction, if_true, String.toList_ofList, stampText, List.append_nil]
  have reads := instant?_stampText short date (show s / 3600 < 24 by omega) (show s % 3600 / 60 < 60 by omega)
    (show s % 60 < 60 by omega)
  have parts : 3600 * (s / 3600) + 60 * (s % 3600 / 60) + s % 60 = s := by omega
  rw [number, parts] at reads
  obtain ⟨⟨-, hm⟩, -, hd⟩ := (isDate_iff _ _ _).mp date
  have longest := monthLength_le y (Date.ofDays n).month
  rw [text]
  exact ⟨stampText_isStamp short (by omega) (by omega) (by omega) (by omega) (by omega), reads⟩

example : instant? "2024-02-29T12:00:00Z".toList = some 1709208000 := by decide +kernel

example : instant? "2023-02-29T12:00:00Z".toList = none := by decide +kernel

/-- The clock can show all that time and more. -/
theorem shown_of_low_of_high {t : Int} (low : -epoch * secondsPerDay ≤ t) (high : t < yearBegins 10000) :
    firstSecond ≤ t ∧ t ≤ lastSecond := by
  have first : firstSecond ≤ -epoch * secondsPerDay := by decide +kernel
  have last : 2932897 * secondsPerDay ≤ lastSecond := by decide +kernel
  have closed := daysBefore_eq 10000
  rw [yearBegins_eq, daysBefore_epoch] at high
  unfold secondsPerDay at *
  omega

end Rehearsal.Calendar
