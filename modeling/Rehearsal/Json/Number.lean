import Rehearsal.Decimal.Shortest

/-! Numbers of JSON texts: their written form and the value read from it. -/
namespace Rehearsal.Json
open Decimal

inductive Number where
  | int (n : Int)
  | float (x : Binary64)
deriving DecidableEq

/- The parts of a written number. `fraction` and `power` are absent rather than empty. -/
structure Numeral where
  negative : Bool
  whole : List Char
  fraction : Option (List Char)
  power : Option (Bool × List Char)

def digitsOf (text : List Char) : List Char × List Char :=
  (text.takeWhile Char.isDigit, text.dropWhile Char.isDigit)

def fractionOf? : List Char → Option (Option (List Char) × List Char)
  | '.' :: rest =>
    let (digits, rest) := digitsOf rest
    if digits.isEmpty then none else some (some digits, rest)
  | rest => some (none, rest)

def powerOf? : List Char → Option (Option (Bool × List Char))
  | [] => some none
  | c :: rest =>
    if c = 'e' ∨ c = 'E' then
      let (negative, rest) := match rest with
        | '+' :: r => (false, r)
        | '-' :: r => (true, r)
        | r => (false, r)
      let (digits, rest) := digitsOf rest
      if digits.isEmpty ∨ !rest.isEmpty then none else some (some (negative, digits))
    else none

def Numeral.ofText? (text : List Char) : Option Numeral := do
  let (negative, text) := match text with
    | '-' :: r => (true, r)
    | r => (false, r)
  let (whole, text) := digitsOf text
  if whole.isEmpty ∨ (whole.head? = some '0' ∧ whole.length ≠ 1) then none
  let (fraction, text) ← fractionOf? text
  let power ← powerOf? text
  return { negative, whole, fraction, power }

def digitValue (c : Char) : Nat := c.toNat - 48

def natOfDigits (digits : List Char) : Nat :=
  digits.foldl (fun n c => 10 * n + digitValue c) 0

def wordLimit : Nat := Nat.pow 2 64

def takeWord : Nat → List Char → Nat × List Char
  | n, [] => (n, [])
  | n, c :: rest =>
    let next := 10 * n + digitValue c
    if next < wordLimit then takeWord next rest else (n, c :: rest)

def powerOfTen (e : Nat) : Binary64 := .ofDecimal false 1 e

/-- `x * 10 ^ e`, one rounding per step; a power too small for one step is taken in several. -/
def raise? (x : Binary64) : Nat → Int → Option Binary64
  | 0, _ => some x
  | fuel + 1, e =>
    if e.natAbs ≤ 308 then
      let y := if 0 ≤ e then x.mul (powerOfTen e.natAbs) else x.div (powerOfTen e.natAbs)
      if y.isInfinite then none else some y
    else if x.isZero then some x
    else if 0 ≤ e then none
    else raise? (x.div (powerOfTen 308)) fuel (e + 308)

def Numeral.float? (t : Numeral) : Option Binary64 := do
  let (n, left) := takeWord 0 t.whole
  let (n, used) := match t.fraction with
    | none => (n, 0)
    | some digits =>
      let (m, rest) := takeWord n digits
      (m, digits.length - rest.length)
  let shift : Int := left.length - used
  let shift ← match t.power with
    | none => some shift
    | some (negative, digits) =>
      let e := natOfDigits digits
      if e < Nat.pow 2 31 then some (if negative then shift - e else shift + e)
      else if negative ∨ n = 0 then some (-1000)
      else none
  let x ← raise? (.ofNat n) 4 shift
  return if t.negative then x.neg else x

def Numeral.value? (t : Numeral) : Option Number :=
  let n := natOfDigits t.whole
  if t.fraction.isNone ∧ t.power.isNone ∧ !(t.negative && n = 0) ∧
      (if t.negative then n ≤ Nat.pow 2 63 else n < wordLimit) then
    some (.int (if t.negative then -n else n))
  else t.float?.map .float

def floatText : Notation := { least := -5, greatest := 15, plus := true, infinite := "null", undefined := "null" }

def intText (n : Int) : List Char :=
  (if n < 0 then ['-'] else []) ++ Nat.toDigits 10 n.natAbs

def Number.render : Number → List Char
  | .int n => intText n
  | .float x => x.render floatText

end Rehearsal.Json
