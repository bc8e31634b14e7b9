import Rehearsal.Decimal.Shortest
import Rehearsal.Text.Integer
import Rehearsal.Text.Quoted

/-!
Values of scalars without quotes, the equality of values, and how messages show them.
-/
namespace Rehearsal.Yaml
open Decimal

inductive Value where
  | null
  | bool (b : Bool)
  | int (n : Int)
  | float (x : Binary64)
  | text (s : String)
  | list (items : List Value)
  | map (entries : List (Value × Value))
  | tagged (tag : String) (v : Value)
deriving Inhabited

def isNullWord (s : String) : Bool := ["~", "null", "Null", "NULL"].contains s

def bool? (s : String) : Option Bool :=
  if ["true", "True", "TRUE"].contains s then some true
  else if ["false", "False", "FALSE"].contains s then some false
  else none

def digit? (base : Nat) (c : Char) : Option Nat :=
  let n := c.toNat
  let d := if c.isDigit then n - 48 else if 97 ≤ n then n - 87 else if 65 ≤ n then n - 55 else base
  if c.isAlphanum ∧ d < base then some d else none

def nat? (base : Nat) (text : List Char) : Option Nat :=
  if text.isEmpty then none
  else text.foldlM (fun n c => (digit? base c).map (base * n + ·)) 0

def radix : List Char → Nat × List Char
  | '0' :: 'x' :: rest => (16, rest)
  | '0' :: 'o' :: rest => (8, rest)
  | '0' :: 'b' :: rest => (2, rest)
  | rest => (10, rest)

def isPadded (text : List Char) : Bool :=
  let digits := match text with
    | '+' :: rest | '-' :: rest => rest
    | rest => rest
  match digits with
  | '0' :: rest => !rest.isEmpty && rest.all Char.isDigit
  | _ => false

def int? (text : List Char) : Option Int :=
  if isPadded text then none
  else
    let (negative, rest) := match text with
      | '-' :: rest => (true, rest)
      | '+' :: rest => (false, rest)
      | rest => (false, rest)
    let (base, digits) := radix rest
    (nat? base digits).map fun n => if negative then -(n : Int) else n

def finite? (negative : Bool) (text : List Char) : Option Binary64 := do
  let whole := text.takeWhile Char.isDigit
  let rest := text.dropWhile Char.isDigit
  let (fraction, rest) := match rest with
    | '.' :: rest => (rest.takeWhile Char.isDigit, rest.dropWhile Char.isDigit)
    | rest => ([], rest)
  let n ← nat? 10 (whole ++ fraction)
  let power : Int ← match rest with
    | [] => some 0
    | e :: rest =>
      if e ≠ 'e' ∧ e ≠ 'E' then none
      else match rest with
        | '-' :: digits => (nat? 10 digits).map fun n => -(n : Int)
        | '+' :: digits => (nat? 10 digits).map Int.ofNat
        | digits => (nat? 10 digits).map Int.ofNat
  let x := Binary64.ofDecimal negative n (power - fraction.length)
  if x.isInfinite then none else some x

def float? (text : List Char) : Option Binary64 :=
  let s := String.ofList text
  if [".inf", ".Inf", ".INF", "+.inf", "+.Inf", "+.INF"].contains s then some (.infinity false)
  else if ["-.inf", "-.Inf", "-.INF"].contains s then some (.infinity true)
  else if [".nan", ".NaN", ".NAN"].contains s then some .nan
  else match text with
    | '+' :: rest => finite? false rest
    | '-' :: rest => finite? true rest
    | rest => finite? false rest

/-- Whole numbers have 64 bits. Those beyond are refused up to 128 bits, and longer ones are not whole. -/
def number? (text : List Char) : Option (Option Value) :=
  match int? text with
  | some n =>
    if Text.fits 64 n then some (some (.int n))
    else if Text.fits 128 n then none
    else some none
  | none => some none

def Value.ofPlain? (s : String) : Option Value :=
  if s.isEmpty || isNullWord s then some .null
  else match bool? s with
    | some b => some (.bool b)
    | none =>
      match number? s.toList with
      | none => none
      | some (some v) => some v
      | some none =>
        if isPadded s.toList then some (.text s)
        else match float? s.toList with
          | some x => some (.float x)
          | none => some (.text s)

def floatText : Notation := { least := -5, greatest := 15, plus := false, infinite := ".inf", undefined := ".nan" }

def showTag (tag : String) : String := "!" ++ tag

def sameFloat (x y : Binary64) : Bool :=
  x == y || (x.isNaN && y.isNaN) || (x.isZero && y.isZero)

mutual
def Value.same : Value → Value → Bool
  | .null, .null => true
  | .bool a, .bool b => a == b
  | .int a, .int b => a == b
  | .float a, .float b => sameFloat a b
  | .text a, .text b => a == b
  | .list a, .list b => sameItems a b
  | .map a, .map b => a.length == b.length && sameEntries a b
  | .tagged s a, .tagged t b => s == t && a.same b
  | _, _ => false

def sameItems : List Value → List Value → Bool
  | [], [] => true
  | a :: as, b :: bs => a.same b && sameItems as bs
  | _, _ => false

def sameEntries : List (Value × Value) → List (Value × Value) → Bool
  | [], _ => true
  | (k, v) :: rest, other => other.any (fun (l, w) => k.same l && v.same w) && sameEntries rest other
end

mutual
def Value.describe : Value → String
  | .null => "Null"
  | .bool b => "Bool(" ++ toString b ++ ")"
  | .int n => "Number(" ++ toString n ++ ")"
  | .float x => "Number(" ++ .ofList (x.render floatText) ++ ")"
  | .text s => "String(" ++ Text.quoted s ++ ")"
  | .list items => "Sequence [" ++ ", ".intercalate (describeItems items) ++ "]"
  | .map entries => "Mapping \x7b" ++ ", ".intercalate (describeEntries entries) ++ "\x7d"
  | .tagged tag v => "TaggedValue \x7b tag: " ++ showTag tag ++ ", value: " ++ v.describe ++ " \x7d"

def describeItems : List Value → List String
  | [] => []
  | v :: rest => v.describe :: describeItems rest

def describeEntries : List (Value × Value) → List String
  | [] => []
  | (k, v) :: rest =>
    let name := match k with
      | .bool b => toString b
      | .int n => toString n
      | .float x => .ofList (x.render floatText)
      | .text s => Text.quoted s
      | k => k.describe
    (name ++ ": " ++ v.describe) :: describeEntries rest
end

end Rehearsal.Yaml
