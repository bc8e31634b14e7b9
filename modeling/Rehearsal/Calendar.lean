import Rehearsal.Json.Number

/-!
Dates of the proleptic Gregorian calendar in UTC, and instants as whole seconds since the start of 1970.
Years are counted from March, so that the leap day is the last of its year; 400 years are one era.
-/
namespace Rehearsal.Calendar

structure Date where
  year : Int
  month : Nat
  day : Nat
deriving DecidableEq

def daysPerEra : Int := 146097

def epoch : Int := 719468

/-- The day of the year, counted from the first of March, on which a month begins; March is month 0. -/
def monthStart (m : Nat) : Nat := (153 * m + 2) / 5

def yearStart (y : Nat) : Nat := 365 * y + y / 4 - y / 100

def yearOfDay (n : Nat) : Nat := (n - n / 1460 + n / 36524 - n / 146096) / 365

namespace Date

def days (d : Date) : Int :=
  let year := if d.month ≤ 2 then d.year - 1 else d.year
  let era := Int.fdiv year 400
  let month := if d.month ≤ 2 then d.month + 9 else d.month - 3
  era * daysPerEra + (yearStart (Int.fmod year 400).toNat + monthStart month + (d.day - 1) : Nat) - epoch

def ofDays (n : Int) : Date :=
  let n := n + epoch
  let era := Int.fdiv n daysPerEra
  let inEra := (Int.fmod n daysPerEra).toNat
  let year := yearOfDay inEra
  let inYear := inEra - yearStart year
  let month := (5 * inYear + 2) / 153
  let january := 10 ≤ month
  { year := era * 400 + year + if january then 1 else 0
    month := if january then month - 9 else month + 3
    day := inYear - monthStart month + 1 }

end Date

def padded (width n : Nat) : List Char :=
  let digits := Nat.toDigits 10 n
  List.replicate (width - digits.length) '0' ++ digits

def yearText (y : Int) : List Char :=
  if 0 ≤ y ∧ y ≤ 9999 then padded 4 y.toNat
  else (if y < 0 then '-' else '+') :: padded 4 y.natAbs

def secondsPerDay : Int := 86400

def fraction (nanos : Nat) : List Char :=
  if nanos = 0 then []
  else if nanos % 1000000 = 0 then '.' :: padded 3 (nanos / 1000000)
  else if nanos % 1000 = 0 then '.' :: padded 6 (nanos / 1000)
  else '.' :: padded 9 nanos

def fineStamp (seconds : Int) (nanos : Nat) : String :=
  let d := Date.ofDays (Int.fdiv seconds secondsPerDay)
  let s := (Int.fmod seconds secondsPerDay).toNat
  .ofList (yearText d.year ++ '-' :: padded 2 d.month ++ '-' :: padded 2 d.day ++
    'T' :: padded 2 (s / 3600) ++ ':' :: padded 2 (s % 3600 / 60) ++ ':' :: padded 2 (s % 60) ++ fraction nanos ++ ['Z'])

def stamp (seconds : Int) : String := fineStamp seconds 0

def firstSecond : Int := Date.days ⟨-262143, 1, 1⟩ * secondsPerDay
def lastSecond : Int := Date.days ⟨262143, 1, 1⟩ * secondsPerDay - 1

end Rehearsal.Calendar
