import Rehearsal.Text.Quoted
import Rehearsal.Text.Search

/-! Spans of time, to the nanosecond, with as many seconds as 64 bits count. -/
namespace Rehearsal

def nanosPerSecond : Nat := 1000000000

structure Span where
  nanos : Nat
  nanos_lt : nanos < Nat.pow 2 64 * nanosPerSecond
deriving DecidableEq

namespace Span

def zero : Span := ⟨0, by decide⟩

def ofNanos? (n : Nat) : Option Span :=
  if h : n < Nat.pow 2 64 * nanosPerSecond then some ⟨n, h⟩ else none

def seconds (s : Span) : Nat := s.nanos / nanosPerSecond

def subNanos (s : Span) : Nat := s.nanos % nanosPerSecond

def ofSeconds (n : UInt64) : Span :=
  ⟨n.toNat * nanosPerSecond, Nat.mul_lt_mul_of_pos_right n.toNat_lt (by decide)⟩

def ofMillis (n : UInt64) : Span :=
  ⟨n.toNat * 1000000, Nat.mul_lt_mul'' n.toNat_lt (by decide)⟩

end Span
end Rehearsal

/-!
Written spans such as `1h 30m` or `1.5s`: numbers with units, added up. Blanks may stand between digits.
A month is 30.44 days and a year 365.25 days.
-/
namespace Rehearsal.Span

inductive Fault where
  /-- Places are counted in bytes. -/
  | invalidCharacter (place : Nat)
  | numberExpected (place : Nat)
  | unitNeeded (value : Nat)
  | unknownUnit (name : String)
  | overflow
  | empty
  /-- A carry of one whole second past the largest span; no error is raised for it, the run breaks off. -/
  | brokenCarry
deriving DecidableEq

def Fault.message : Fault → String
  | .invalidCharacter n => "invalid character at " ++ toString n
  | .numberExpected n => "expected number at " ++ toString n
  | .unitNeeded n => "time unit needed, for example " ++ toString n ++ "sec or " ++ toString n ++ "ms"
  | .unknownUnit name =>
    "unknown time unit " ++ Text.quoted name ++ ", supported units: ns, us/µs, ms, sec, min, hours, days, " ++
      "weeks, months, years (and few variations)"
  | .overflow =>
    "number is too large or cannot be represented without a lack of precision " ++
      "(values below 1ns are not supported)"
  | .empty => "value was empty"
  | .brokenCarry => "overflow in a sum of spans"

inductive Scale where
  | nanosecond
  | microsecond
  | millisecond
  | second
  | minute
  | hour
  | day
  | week
  | month
  | year
deriving DecidableEq

namespace Scale

def nanos : Scale → Nat
  | .nanosecond => 1
  | .microsecond => 1000
  | .millisecond => 1000000
  | .second => nanosPerSecond
  | .minute => 60 * nanosPerSecond
  | .hour => 3600 * nanosPerSecond
  | .day => 86400 * nanosPerSecond
  | .week => 604800 * nanosPerSecond
  | .month => 2630016 * nanosPerSecond
  | .year => 31557600 * nanosPerSecond

def names : Scale → List String
  | .nanosecond => ["nanos", "nsec", "ns"]
  | .microsecond => ["usec", "us", "µs"]
  | .millisecond => ["millis", "msec", "ms"]
  | .second => ["seconds", "second", "secs", "sec", "s"]
  | .minute => ["minutes", "minute", "mins", "min", "m"]
  | .hour => ["hours", "hour", "hrs", "hr", "h"]
  | .day => ["days", "day", "d"]
  | .week => ["weeks", "week", "wks", "wk", "w"]
  | .month => ["months", "month", "M"]
  | .year => ["years", "year", "yrs", "yr", "y"]

def all : List Scale :=
  [.nanosecond, .microsecond, .millisecond, .second, .minute, .hour, .day, .week, .month, .year]

def ofName? (name : String) : Option Scale :=
  all.find? (·.names.contains name)

/-- The grain of a fraction of the unit: nanoseconds up to minutes, seconds beyond, nothing below a nanosecond. -/
def grain? : Scale → Option Nat
  | .nanosecond => none
  | .microsecond | .millisecond | .second | .minute => some 1
  | _ => some nanosPerSecond

end Scale

def wordLimit : Nat := Nat.pow 2 64

def split (s : Scale) (n : Nat) : Nat × Nat :=
  if nanosPerSecond ≤ s.nanos then (n * (s.nanos / nanosPerSecond), 0) else (0, n * s.nanos)

def add? (total : Span) (seconds nanos : Nat) : Except Fault Span :=
  let carried := total.subNanos + nanos
  if wordLimit ≤ seconds ∨ wordLimit ≤ nanos ∨ wordLimit ≤ carried then .error .overflow
  else match ofNanos? (total.nanos + seconds * nanosPerSecond + nanos) with
    | some s => .ok s
    | none =>
      if carried = nanosPerSecond ∧ total.seconds + seconds + 1 = wordLimit then .error .brokenCarry
      else .error .overflow

structure Fraction where
  numerator : Nat
  denominator : Nat

def addUnits? (total : Span) (n : Nat) (fraction : Option Fraction) (unit : List Char) : Except Fault Span :=
  match Scale.ofName? (.ofList unit) with
  | none => .error (if unit.isEmpty then .unitNeeded n else .unknownUnit (.ofList unit))
  | some s => do
    let (seconds, nanos) := split s n
    let total ← add? total seconds nanos
    match fraction with
    | none => return total
    | some f =>
      match s.grain? with
      | none => .error .overflow
      | some grain =>
        let count := f.numerator * (s.nanos / grain)
        if wordLimit ≤ count ∨ count % f.denominator ≠ 0 then .error .overflow
        else if grain = 1 then add? total 0 (count / f.denominator)
        else add? total (count / f.denominator) 0

def isUnitLetter (c : Char) : Bool := c.isAlpha || c == 'µ'

def width (c : Char) : Nat := c.utf8Size

inductive Phase where
  | start (place : Nat) (first : Bool)
  | digits (n : Nat)
  | fraction (n : Nat) (f : Fraction) (place : Nat)
  | unit (n : Nat) (f : Option Fraction) (letters : List Char)

structure Scan where
  total : Span := .zero
  place : Nat := 0
  phase : Phase := .start 0 true

def Scan.closeUnit (s : Scan) (n : Nat) (f : Option Fraction) (letters : List Char) : Except Fault Span :=
  addUnits? s.total n f letters.reverse

def Scan.step (s : Scan) (c : Char) : Except Fault Scan :=
  let next := s.place + width c
  match s.phase with
  | .start place _ =>
    if c.isDigit then .ok { s with place := next, phase := .digits (c.toNat - 48) }
    else if Text.isBlank c then .ok { s with place := next }
    else .error (.numberExpected place)
  | .digits n =>
    if c.isDigit then
      let m := 10 * n + (c.toNat - 48)
      if wordLimit ≤ m then .error .overflow else .ok { s with place := next, phase := .digits m }
    else if Text.isBlank c then .ok { s with place := next }
    else if isUnitLetter c then .ok { s with place := next, phase := .unit n none [c] }
    else if c = '.' then .ok { s with place := next, phase := .fraction n ⟨0, 1⟩ s.place }
    else .error (.invalidCharacter s.place)
  | .fraction n f place =>
    if c.isDigit then
      let g : Fraction := ⟨10 * f.numerator + (c.toNat - 48), 10 * f.denominator⟩
      if wordLimit ≤ g.denominator ∨ wordLimit ≤ g.numerator then .error .overflow
      else .ok { s with place := next, phase := .fraction n g next }
    else if Text.isBlank c then .ok { s with place := next, phase := .fraction n f next }
    else if f.denominator = 1 ∨ !isUnitLetter c then .error (.invalidCharacter place)
    else .ok { s with place := next, phase := .unit n (some f) [c] }
  | .unit n f letters =>
    if c.isDigit then do
      let total ← s.closeUnit n f letters
      return { total, place := next, phase := .digits (c.toNat - 48) }
    else if Text.isBlank c then do
      let total ← s.closeUnit n f letters
      return { total, place := next, phase := .start next false }
    else if isUnitLetter c then .ok { s with place := next, phase := .unit n f (c :: letters) }
    else .error (.invalidCharacter s.place)

def Scan.finish (s : Scan) : Except Fault Span :=
  match s.phase with
  | .start _ first => if first then .error .empty else .ok s.total
  | .digits n => s.closeUnit n none []
  | .fraction n f place => if f.denominator = 1 then .error (.invalidCharacter place) else s.closeUnit n (some f) []
  | .unit n f letters => s.closeUnit n f letters

def ofText (text : List Char) : Except Fault Span := do
  let s ← text.foldlM Scan.step {}
  s.finish

def part (n : Nat) (unit : String) : List String :=
  if n = 0 then [] else [toString n ++ unit]

def counted (n : Nat) (unit : String) : List String :=
  part n (if n > 1 then unit ++ "s" else unit)

def render (s : Span) : String :=
  if s.nanos = 0 then "0s" else
    let year := s.seconds / 31557600
    let r := s.seconds % 31557600
    let month := r / 2630016
    let r := r % 2630016
    let day := r / 86400
    let r := r % 86400
    let n := s.subNanos
    " ".intercalate (counted year "year" ++ counted month "month" ++ counted day "day" ++
      part (r / 3600) "h" ++ part (r % 3600 / 60) "m" ++ part (r % 60) "s" ++
      part (n / 1000000) "ms" ++ part (n / 1000 % 1000) "us" ++ part (n % 1000) "ns")

end Rehearsal.Span
