/-!
Binary numbers of 64 bits, by their bits. The operations are exact on fractions and round once, to the
nearest number and to the even one of two that are as near.
-/
namespace Rehearsal.Decimal

structure Binary64 where
  bits : UInt64
deriving DecidableEq, Inhabited

namespace Binary64

def negative (x : Binary64) : Bool := x.bits.toNat ≥ Nat.pow 2 63

def biased (x : Binary64) : Nat := x.bits.toNat / Nat.pow 2 52 % 2048

def fraction (x : Binary64) : Nat := x.bits.toNat % Nat.pow 2 52

def isNaN (x : Binary64) : Bool := x.biased == 2047 && x.fraction != 0

def isInfinite (x : Binary64) : Bool := x.biased == 2047 && x.fraction == 0

def isZero (x : Binary64) : Bool := x.biased == 0 && x.fraction == 0

def mantissa (x : Binary64) : Nat :=
  if x.biased = 0 then x.fraction else x.fraction + Nat.pow 2 52

def exponent (x : Binary64) : Int :=
  if x.biased = 0 then -1074 else x.biased - 1075

def assemble (negative : Bool) (biased fraction : Nat) : Binary64 :=
  ⟨.ofNat ((if negative then Nat.pow 2 63 else 0) + biased * Nat.pow 2 52 + fraction)⟩

def zero (negative : Bool) : Binary64 := assemble negative 0 0
def infinity (negative : Bool) : Binary64 := assemble negative 2047 0
def nan : Binary64 := assemble false 2047 (Nat.pow 2 51)

def neg (x : Binary64) : Binary64 :=
  assemble (!x.negative) x.biased x.fraction

/-- `n / d` to the nearest whole number, a half to the even one. -/
def divNearest (n d : Nat) : Nat :=
  let k := n / d
  let r := 2 * (n % d)
  if d < r ∨ (r = d ∧ k % 2 = 1) then k + 1 else k

def scaled (n d : Nat) (e : Int) : Nat × Nat :=
  if e < 0 then (n * Nat.pow 2 e.natAbs, d) else (n, d * Nat.pow 2 e.natAbs)

def ofRatio (negative : Bool) (n d : Nat) : Binary64 :=
  if n = 0 then zero negative else
    let guess := max ((n.log2 : Int) - d.log2 - 52) (-1074)
    let (a, b) := scaled n d guess
    let e := if a / b < Nat.pow 2 52 ∧ -1074 < guess then guess - 1 else guess
    let (a, b) := scaled n d e
    let m := divNearest a b
    let (m, e) := if m = Nat.pow 2 53 then (Nat.pow 2 52, e + 1) else (m, e)
    if m < Nat.pow 2 52 then assemble negative 0 m
    else if 971 < e then infinity negative
    else assemble negative (e + 1075).toNat (m - Nat.pow 2 52)

def ofNat (n : Nat) : Binary64 := ofRatio false n 1

def ofDecimal (negative : Bool) (n : Nat) (e : Int) : Binary64 :=
  if n = 0 then zero negative
  else
    let size : Int := e + (n.log2 / 3 : Nat)
    if e > 400 then infinity negative
    else if size < -800 then zero negative
    else if e < 0 then ofRatio negative n (Nat.pow 10 e.natAbs)
    else ofRatio negative (n * Nat.pow 10 e.natAbs) 1

private def product (x y : Binary64) (e : Int) (n d : Nat) : Binary64 :=
  let (a, b) := scaled n d (-e)
  ofRatio (x.negative != y.negative) a b

def mul (x y : Binary64) : Binary64 :=
  product x y (x.exponent + y.exponent) (x.mantissa * y.mantissa) 1

def div (x y : Binary64) : Binary64 :=
  product x y (x.exponent - y.exponent) x.mantissa y.mantissa

end Binary64
end Rehearsal.Decimal
