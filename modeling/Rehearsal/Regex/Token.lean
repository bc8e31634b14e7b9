import Rehearsal.Regex.Basic
import Rehearsal.Regex.Property
import Rehearsal.Text.Search

/-! The parts of a written pattern: flags, escapes, counts. Each reader takes the text at its first character and gives back the rest. -/
namespace Rehearsal.Regex

structure Flags where
  caseless : Bool := false
  multiLine : Bool := false
  dotAll : Bool := false
  crlf : Bool := false
  unicode : Bool := true
  /-- Blanks and comments between tokens do not count. -/
  extended : Bool := false
deriving DecidableEq

def dropIgnored : Bool → List Char → List Char
  | _, [] => []
  | true, c :: rest => dropIgnored (c != '\n') rest
  | false, c :: rest =>
    if Text.isBlank c then dropIgnored false rest
    else if c = '#' then dropIgnored true rest
    else c :: rest

def skip (f : Flags) (text : List Char) : List Char :=
  if f.extended then dropIgnored false text else text

def gather (f : Flags) (stop : Char → Bool) : Bool → List Char → List Char × List Char
  | _, [] => ([], [])
  | true, c :: rest => gather f stop (c != '\n') rest
  | false, c :: rest =>
    if f.extended && Text.isBlank c then gather f stop false rest
    else if f.extended && c = '#' then gather f stop true rest
    else if stop c then ([], c :: rest)
    else
      let (taken, rest) := gather f stop false rest
      (c :: taken, rest)

def isMeta (c : Char) : Bool :=
  "\\.+*?()|[]\x7b\x7d^$#&-~".toList.contains c

def isEscapable (c : Char) : Bool :=
  isMeta c || (c.toNat < 128 && !c.isAlphanum && c != '<' && c != '>')

inductive Primitive where
  /-- `byte` tells a character written as two hexadecimal digits. -/
  | char (c : Char) (byte : Bool)
  | set (s : CharSet)
  | anchor (a : Anchor)

/-- The complement where `negated` asks for it, after characters are joined by their case variants. Without
Unicode only sets of ASCII characters can be written. -/
def foldAndNegate (f : Flags) (negated : Bool) (s : CharSet) : Option CharSet :=
  if f.unicode then
    let s := if f.caseless then .fold s else s
    some (if negated then .compl s else s)
  else if negated then none
  else some (if f.caseless then .foldAscii s else s)

def charOfHex? (digits : List Char) : Option Char :=
  let n := Unicode.hexValue digits
  if n.isValidChar then some (Char.ofNat n) else none

def isHexDigit (c : Char) : Bool := (Unicode.hexDigit? c).isSome

def hexDigits? (f : Flags) : Nat → List Char → List Char → Option (List Char × List Char)
  | 0, text, digits => some (digits.reverse, text)
  | n + 1, c :: rest, digits => if isHexDigit c then hexDigits? f n (skip f rest) (c :: digits) else none
  | _ + 1, [], _ => none

def hexEscape? (f : Flags) (size : Nat) (text : List Char) : Option (Primitive × List Char) :=
  match skip f text with
  | '\x7b' :: rest =>
    match gather f (· == '\x7d') false rest with
    | (digits, '\x7d' :: rest) =>
      if digits.isEmpty || !digits.all isHexDigit then none
      else (charOfHex? digits).map fun c => (.char c false, skip f rest)
    | _ => none
  | text => do
    let (digits, rest) ← hexDigits? f size text []
    let c ← charOfHex? digits
    return (.char c (size == 2), rest)

def namedSet? (name : List Char) : Option (CharSet × Bool) :=
  match Text.cutAtFirst? [['!', '=']] name with
  | some (property, _, value) => (valueSet? property value).map (·, true)
  | none =>
    match (Text.cutAtFirst? [[':']] name).orElse fun _ => Text.cutAtFirst? [['=']] name with
    | some (property, _, value) => (valueSet? property value).map (·, false)
    | none => (propertySet? name).map (·, false)

def propertyEscape? (f : Flags) (negated : Bool) (text : List Char) : Option (Primitive × List Char) := do
  if !f.unicode then none
  let ((s, inverse), rest) ← match skip f text with
    | '\x7b' :: rest =>
      match gather f (· == '\x7d') false rest with
      | (name, '\x7d' :: rest) => (namedSet? name).map (·, rest)
      | _ => none
    | c :: rest => if c = '\\' then none else (propertySet? [c]).map fun s => ((s, false), skip f rest)
    | [] => none
  let s ← foldAndNegate f (negated != inverse) s
  return (.set s, rest)

def letterClass? (f : Flags) (c : Char) : Option CharSet :=
  let s := match c.toLower with
    | 'd' => if f.unicode then digitSet else .ranges [('0', '9')]
    | 's' => if f.unicode then spaceSet else .ranges [('\t', '\r'), (' ', ' ')]
    | _ => if f.unicode then wordSet else asciiWord
  if c.isUpper then (if f.unicode then some (.compl s) else none) else some s

/-- The kinds of word edges in braces, and nothing if no letter or hyphen follows the brace. -/
def braceEdge? (f : Flags) (text : List Char) : Option (Anchor × List Char) :=
  let ascii := !f.unicode
  match text with
  | '\x7b' :: rest =>
    let letters (c : Char) : Bool := c.isAlpha || c == '-'
    match skip f rest with
    | [] => none
    | c :: _ =>
      if !letters c then some (.wordEdge ascii, text) else
        match gather f (fun c => !letters c) false rest with
        | (name, '\x7d' :: rest) =>
          match String.ofList name with
          | "start" => some (.wordStart ascii, rest)
          | "end" => some (.wordEnd ascii, rest)
          | "start-half" => some (.wordStartHalf ascii, rest)
          | "end-half" => some (.wordEndHalf ascii, rest)
          | _ => none
        | _ => none
  | text => some (.wordEdge ascii, text)

def escape? (f : Flags) : List Char → Option (Primitive × List Char)
  | [] => none
  | c :: rest =>
    let ascii := !f.unicode
    let char (d : Char) : Option (Primitive × List Char) := some (.char d false, rest)
    let anchor (a : Anchor) : Option (Primitive × List Char) := some (.anchor a, rest)
    if c.isDigit then none
    else if c = 'x' then hexEscape? f 2 rest
    else if c = 'u' then hexEscape? f 4 rest
    else if c = 'U' then hexEscape? f 8 rest
    else if c = 'p' ∨ c = 'P' then propertyEscape? f (c == 'P') rest
    else if "dswDSW".toList.contains c then (letterClass? f c).map fun s => (.set s, rest)
    else if isEscapable c then char c
    else match c with
      | 'a' => char '\x07'
      | 'f' => char '\x0c'
      | 't' => char '\t'
      | 'n' => char '\n'
      | 'r' => char '\r'
      | 'v' => char '\x0b'
      | 'A' => anchor .textStart
      | 'z' => anchor .textEnd
      | 'b' => (braceEdge? f rest).map fun (a, rest) => (.anchor a, rest)
      | 'B' => anchor (.notWordEdge ascii)
      | '<' => anchor (.wordStart ascii)
      | '>' => anchor (.wordEnd ascii)
      | _ => none

def Primitive.isSound (f : Flags) : Primitive → Bool
  | .char c byte => f.unicode || !byte || c.toNat < 128
  | _ => true

def count? (f : Flags) (text : List Char) : Option (Option Nat × List Char) :=
  let (digits, rest) := gather f (!·.isDigit) false (text.dropWhile Text.isBlank)
  let rest := skip f (rest.dropWhile Text.isBlank)
  if digits.isEmpty then some (none, rest) else
    let n := digits.foldl (fun n c => 10 * n + (c.toNat - 48)) 0
    if n < Nat.pow 2 32 then some (some n, rest) else none

def bounds? (f : Flags) (text : List Char) : Option ((Nat × Option Nat) × List Char) := do
  let (least, rest) ← count? f (skip f text)
  match rest with
  | ',' :: rest =>
    match skip f rest with
    | '\x7d' :: rest => return ((← least, none), skip f rest)
    | rest =>
      let (most, rest) ← count? f rest
      let least ← least
      let most ← most
      match rest with
      | '\x7d' :: rest => if least ≤ most then some ((least, some most), skip f rest) else none
      | _ => none
  | '\x7d' :: rest => return ((← least, some (← least)), skip f rest)
  | _ => none

end Rehearsal.Regex
