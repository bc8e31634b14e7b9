/-! Whole numbers as users write them: decimal digits with at most one sign before them. -/
namespace Rehearsal.Text

inductive IntegerFault where
  | empty
  | invalidDigit
  | tooLarge
  | tooSmall
deriving DecidableEq

def IntegerFault.message : IntegerFault → String
  | .empty => "cannot parse integer from empty string"
  | .invalidDigit => "invalid digit found in string"
  | .tooLarge => "number too large to fit in target type"
  | .tooSmall => "number too small to fit in target type"

def fitsSigned (bits : Nat) (n : Int) : Bool :=
  -(Nat.pow 2 (bits - 1) : Int) ≤ n && n < Nat.pow 2 (bits - 1)

def fits (bits : Nat) (n : Int) : Bool :=
  -(Nat.pow 2 (bits - 1) : Int) ≤ n && n < Nat.pow 2 bits

def digitsUpTo (limit : Nat) (beyond : IntegerFault) : Nat → List Char → Except IntegerFault Nat
  | n, [] => .ok n
  | n, c :: rest =>
    if !c.isDigit then .error .invalidDigit
    else
      let m := 10 * n + (c.toNat - 48)
      if limit < m then .error beyond else digitsUpTo limit beyond m rest

def word? (text : List Char) : Except IntegerFault Nat :=
  match text with
  | [] => .error .empty
  | '+' :: d :: rest => digitsUpTo (Nat.pow 2 64 - 1) .tooLarge 0 (d :: rest)
  | text => digitsUpTo (Nat.pow 2 64 - 1) .tooLarge 0 text

def int64? (text : List Char) : Except IntegerFault Int :=
  match text with
  | [] => .error .empty
  | '-' :: d :: rest => (digitsUpTo (Nat.pow 2 63) .tooSmall 0 (d :: rest)).map fun n => -(n : Int)
  | '+' :: d :: rest => (digitsUpTo (Nat.pow 2 63 - 1) .tooLarge 0 (d :: rest)).map Int.ofNat
  | text => (digitsUpTo (Nat.pow 2 63 - 1) .tooLarge 0 text).map Int.ofNat

end Rehearsal.Text
