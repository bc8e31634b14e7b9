import Rehearsal.Text.Integer
import Rehearsal.Toml.Table
import Rehearsal.Unicode.Ranges

/-! Strings, numbers, and times as TOML writes them. Each reader gives what it read and the text behind it. -/
namespace Rehearsal.Toml
open Decimal (Binary64)

def isControl (c : Char) : Bool := (c.toNat < 32 && c != '\t') || c.toNat == 127

def escaped? (c : Char) : Option Char :=
  List.lookup c
    [('b', '\x08'), ('t', '\t'), ('n', '\n'), ('f', '\x0c'), ('r', '\r'), ('e', '\x1b'), ('"', '"'), ('\\', '\\')]

def escapeWidth? (c : Char) : Option Nat :=
  List.lookup c [('x', 2), ('u', 4), ('U', 8)]

def charOfCode? (n : Nat) : Option Char :=
  if h : n.isValidChar then some (Char.ofNatAux n h) else none

/-- Where a string is read: in its text, behind quotes of which three may end it, in an escape, or on the way to the
next line that an escaped line end leads to. -/
inductive StringMode where
  | text
  | quotes (n : Nat)
  | escape
  | code (left : Nat) (digits : List Char)
  | skip (passed : Bool)
  | lineEnd

structure Style where
  quote : Char
  long : Bool

def Style.escapes (s : Style) : Bool := s.quote == '"'

inductive StringStep where
  | more (mode : StringMode) (acc : List Char)
  | endsBefore (acc : List Char)
  | endsWith (acc : List Char)

def Style.inText? (s : Style) (acc : List Char) (c : Char) (next : Option Char) : Option StringStep :=
  if c = s.quote then some (if s.long then .more (.quotes 1) acc else .endsWith acc)
  else if c = '\\' ∧ s.escapes then some (.more .escape acc)
  else if s.long ∧ (c = '\n' ∨ (c = '\r' ∧ next = some '\n')) then some (.more .text (c :: acc))
  else if isControl c then none
  else some (.more .text (c :: acc))

def skipStep? (passed : Bool) (acc : List Char) (c : Char) : Option StringStep :=
  if c = ' ' ∨ c = '\t' then some (.more (.skip passed) acc)
  else if c = '\n' then some (.more (.skip true) acc)
  else if c = '\r' then some (.more .lineEnd acc)
  else none

def Style.step? (s : Style) (mode : StringMode) (acc : List Char) (c : Char) (next : Option Char) : Option StringStep :=
  match mode with
  | .text => s.inText? acc c next
  | .quotes n =>
    if c = s.quote ∧ n < 5 then some (.more (.quotes (n + 1)) acc)
    else if 3 ≤ n then some (.endsBefore (List.replicate (n - 3) s.quote ++ acc))
    else s.inText? (List.replicate n s.quote ++ acc) c next
  | .escape =>
    match escapeWidth? c with
    | some n => some (.more (.code n []) acc)
    | none =>
      match escaped? c with
      | some d => some (.more .text (d :: acc))
      | none => if s.long then skipStep? false acc c else none
  | .code left digits =>
    if (Unicode.hexDigit? c).isNone then none
    else if left = 1 then
      (charOfCode? (Unicode.hexValue (c :: digits).reverse)).map fun d => .more .text (d :: acc)
    else some (.more (.code (left - 1) (c :: digits)) acc)
  | .skip passed =>
    match skipStep? passed acc c with
    | some step => some step
    | none => if passed then s.inText? acc c next else none
  | .lineEnd => if c = '\n' then some (.more (.skip true) acc) else none

def stringFrom? (s : Style) (mode : StringMode) (acc : List Char) : List Char → Option (String × List Char)
  | [] =>
    match mode with
    | .quotes n => if 3 ≤ n then some (.ofList (List.replicate (n - 3) s.quote ++ acc).reverse, []) else none
    | _ => none
  | c :: rest =>
    match s.step? mode acc c rest.head? with
    | some (.more mode acc) => stringFrom? s mode acc rest
    | some (.endsBefore acc) => some (.ofList acc.reverse, c :: rest)
    | some (.endsWith acc) => some (.ofList acc.reverse, rest)
    | none => none

def shortString? : List Char → Option (String × List Char)
  | c :: rest => if c = '"' ∨ c = '\'' then stringFrom? ⟨c, false⟩ .text [] rest else none
  | [] => none

def string? : List Char → Option (String × List Char)
  | a :: b :: c :: rest =>
    if (a = '"' ∨ a = '\'') ∧ b = a ∧ c = a then
      stringFrom? ⟨a, true⟩ .text [] (match rest with
        | '\n' :: r => r
        | '\r' :: '\n' :: r => r
        | r => r)
    else shortString? (a :: b :: c :: rest)
  | text => shortString? text

def plainDigits? (isDigit : Char → Bool) : List Char → Option (List Char)
  | [] => none
  | [c] => if isDigit c then some [c] else none
  | c :: '_' :: rest => if isDigit c then (plainDigits? isDigit rest).map (c :: ·) else none
  | c :: rest => if isDigit c then (plainDigits? isDigit rest).map (c :: ·) else none

def natOf (base : Nat) (digits : List Char) : Nat :=
  digits.foldl (fun n c => base * n + (Unicode.hexDigit? c).getD 0) 0

def isBase (base : Nat) (c : Char) : Bool :=
  match Unicode.hexDigit? c with
  | some d => d < base
  | none => false

def wholeDigits? (text : List Char) : Option (List Char) := do
  let digits ← plainDigits? Char.isDigit text
  if digits.head? = some '0' ∧ digits.length ≠ 1 then none
  return digits

def signOf : List Char → Bool × List Char
  | '-' :: rest => (true, rest)
  | '+' :: rest => (false, rest)
  | rest => (false, rest)

def int? (text : List Char) : Option Int := do
  let n : Int ← match text with
    | '0' :: 'x' :: rest => do pure (natOf 16 (← plainDigits? (isBase 16) rest))
    | '0' :: 'o' :: rest => do pure (natOf 8 (← plainDigits? (isBase 8) rest))
    | '0' :: 'b' :: rest => do pure (natOf 2 (← plainDigits? (isBase 2) rest))
    | _ =>
      let (negative, rest) := signOf text
      do
        let n := natOf 10 (← wholeDigits? rest)
        pure (if negative then -(n : Int) else n)
  if Text.fits 128 n then some n else none

def power? : List Char → Option Int
  | [] => some 0
  | e :: rest =>
    if e = 'e' ∨ e = 'E' then do
      let (negative, rest) := signOf rest
      let n := natOf 10 (← plainDigits? Char.isDigit rest)
      return if negative then -(n : Int) else n
    else none

def isDigitOrBar (c : Char) : Bool := c.isDigit || c == '_'

def float? (text : List Char) : Option Binary64 := do
  let (negative, rest) := signOf text
  if rest = "inf".toList then return .infinity negative
  if rest = "nan".toList then return .nan
  let whole ← wholeDigits? (rest.takeWhile isDigitOrBar)
  let rest := rest.dropWhile isDigitOrBar
  let (fraction, rest) ← match rest with
    | '.' :: rest => do pure (← plainDigits? Char.isDigit (rest.takeWhile isDigitOrBar), rest.dropWhile isDigitOrBar)
    | rest => some ([], rest)
  let power ← power? rest
  let x := Binary64.ofDecimal negative (natOf 10 (whole ++ fraction)) (power - fraction.length)
  if x.isInfinite then none else some x

def twoDigits? (limit : Nat) : List Char → Option (Nat × List Char)
  | a :: b :: rest =>
    let n := natOf 10 [a, b]
    if a.isDigit ∧ b.isDigit ∧ n ≤ limit then some (n, rest) else none
  | _ => none

def expect? (c : Char) : List Char → Option (List Char)
  | d :: rest => if c = d then some rest else none
  | [] => none

def isLeap (y : Nat) : Bool := y % 4 == 0 && (y % 100 != 0 || y % 400 == 0)

def monthLength (y m : Nat) : Nat :=
  if m = 2 then (if isLeap y then 29 else 28) else if m = 4 ∨ m = 6 ∨ m = 9 ∨ m = 11 then 30 else 31

def date? (text : List Char) : Option (List Char) := do
  let (century, rest) ← twoDigits? 99 text
  let (year, rest) ← twoDigits? 99 rest
  let (month, rest) ← twoDigits? 12 (← expect? '-' rest)
  let (day, rest) ← twoDigits? 31 (← expect? '-' rest)
  if month = 0 ∨ day = 0 ∨ monthLength (100 * century + year) month < day then none
  return rest

def time? (text : List Char) : Option (List Char) := do
  let (_, rest) ← twoDigits? 23 text
  let (_, rest) ← twoDigits? 59 (← expect? ':' rest)
  match rest with
  | ':' :: rest =>
    let (_, rest) ← twoDigits? 60 rest
    match rest with
    | '.' :: rest => if (rest.takeWhile Char.isDigit).isEmpty then none else some (rest.dropWhile Char.isDigit)
    | rest => some rest
  | rest => some rest

def isOffset : List Char → Bool
  | [] => true
  | [c] => c == 'Z' || c == 'z'
  | sign :: rest =>
    (sign == '+' || sign == '-') && ((do
      let (_, rest) ← twoDigits? 23 rest
      let (_, rest) ← twoDigits? 59 (← expect? ':' rest)
      return rest.isEmpty : Option Bool).getD false)

def isTime (text : List Char) : Bool :=
  match date? text with
  | some [] => true
  | some (c :: rest) =>
    (c == 'T' || c == 't' || c == ' ') && (match time? rest with
      | some rest => isOffset rest
      | none => false)
  | none => time? text == some []

def isWordChar (c : Char) : Bool := c.isAlphanum || c == '+' || c == '-' || c == '_' || c == '.' || c == ':'

def word? (text : List Char) : Option (Value × List Char) :=
  let word := text.takeWhile isWordChar
  let rest := text.dropWhile isWordChar
  let (word, rest) := match rest with
    | ' ' :: c :: more =>
      if (date? word) = some [] ∧ c.isDigit then
        (word ++ ' ' :: (c :: more).takeWhile isWordChar, (c :: more).dropWhile isWordChar)
      else (word, rest)
    | _ => (word, rest)
  let v : Option Value :=
    if word = "true".toList then some (.bool true)
    else if word = "false".toList then some (.bool false)
    else match int? word with
      | some n => some (.int n)
      | none =>
        match float? word with
        | some x => some (.float x)
        | none => if isTime word then some .time else none
  v.map (·, rest)

end Rehearsal.Toml
