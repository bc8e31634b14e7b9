import Rehearsal.Decimal.Binary64

/-!
The fewest digits that read back as a number, and the ways to set them down.
-/
namespace Rehearsal.Decimal

structure Digits where
  digits : Nat
  exponent : Int
deriving DecidableEq

/- The reals that round to a number lie between `low` and `high` in units of `2 ^ unit`; `value` is the
   number itself, and the ends belong to it when its mantissa is even. -/
structure Neighbourhood where
  low : Nat
  value : Nat
  high : Nat
  unit : Int
  closed : Bool

def neighbourhood (x : Binary64) : Neighbourhood :=
  let m := x.mantissa
  { low := if x.fraction = 0 ∧ 1 < x.biased then 4 * m - 1 else 4 * m - 2
    value := 4 * m
    high := 4 * m + 2
    unit := x.exponent - 2
    closed := m % 2 == 0 }

def common (n : Nat) (a : Int) (k : Nat) (b : Int) : Nat × Nat :=
  (n * Nat.pow 2 a.toNat * Nat.pow 10 (-b).toNat, k * Nat.pow 10 b.toNat * Nat.pow 2 (-a).toNat)

def Neighbourhood.holds (h : Neighbourhood) (k : Nat) (e : Int) : Bool :=
  let (low, mid) := common h.low h.unit k e
  let (high, _) := common h.high h.unit k e
  if h.closed then low ≤ mid && mid ≤ high else low < mid && mid < high

def tenPower (n : Nat) (a : Int) : Int :=
  let guess := Int.fdiv (((n.log2 : Int) + a) * 30103) 100000 - 1
  let fits (k : Int) : Bool := let (v, p) := common n a 1 k; p ≤ v
  if fits (guess + 2) then guess + 2 else if fits (guess + 1) then guess + 1 else guess

def dropZeros : Nat → Nat → Int → Digits
  | 0, n, e => ⟨n, e⟩
  | fuel + 1, n, e => if n ≠ 0 ∧ n % 10 = 0 then dropZeros fuel (n / 10) (e + 1) else ⟨n, e⟩

def onGrid? (h : Neighbourhood) (e : Int) : Option Digits :=
  let (v, p) := common h.value h.unit 1 e
  let k := v / p
  let below := h.holds k e && k ≠ 0
  let above := h.holds (k + 1) e
  if below && above then
    let r := 2 * (v % p)
    some ⟨if r < p ∨ (r = p ∧ k % 2 = 0) then k else k + 1, e⟩
  else if below then some ⟨k, e⟩
  else if above then some ⟨k + 1, e⟩
  else none

/-- The shortest digits of a finite number: on the coarsest grid that has some, those nearest to it. -/
def shortest (x : Binary64) : Digits :=
  if x.isZero then ⟨0, 0⟩ else
    let h := neighbourhood x
    let top := tenPower h.value h.unit
    let found := (List.range 17).findSome? fun n : Nat => onGrid? h (top - n)
    match found with
    | some d => dropZeros 20 d.digits d.exponent
    | none => ⟨0, 0⟩

structure Notation where
  least : Int
  greatest : Int
  plus : Bool
  infinite : String := ""
  undefined : String := ""

def zeros (n : Nat) : List Char := List.replicate n '0'

def Digits.render (f : Notation) (d : Digits) : List Char :=
  let text := Nat.toDigits 10 d.digits
  let size : Int := text.length
  let power := d.exponent + size - 1
  if f.least ≤ power ∧ power ≤ f.greatest then
    if 0 ≤ d.exponent then text ++ zeros d.exponent.toNat ++ ".0".toList
    else if 0 ≤ power then
      text.take (power + 1).toNat ++ '.' :: text.drop (power + 1).toNat
    else "0.".toList ++ zeros (-power - 1).toNat ++ text
  else
    let lead := match text with
      | c :: r@(_ :: _) => c :: '.' :: r
      | one => one
    let sign := if power < 0 then ['-'] else if f.plus then ['+'] else []
    lead ++ 'e' :: sign ++ Nat.toDigits 10 power.natAbs

def Binary64.render (f : Notation) (x : Binary64) : List Char :=
  if x.isNaN then f.undefined.toList
  else (if x.negative then ['-'] else []) ++
    if x.isInfinite then f.infinite.toList else (shortest x).render f

end Rehearsal.Decimal
