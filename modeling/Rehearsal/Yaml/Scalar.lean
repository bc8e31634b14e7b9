import Rehearsal.Unicode.Ranges
import Rehearsal.Yaml.Letter

/-!
Scalars as written: plain ones, quoted ones, and blocks of lines. Each reader takes the letters from the
scalar's start on, and gives its text and the letters behind it.
-/
namespace Rehearsal.Yaml

def isFlowMark (c : Char) : Bool := c == ',' || c == '[' || c == ']' || c == '\x7b' || c == '\x7d'

def endsPlain (inFlow : Bool) (letters : List Letter) : Bool :=
  match letters with
  | [] => true
  | l :: rest => (l.char == ':' && isGapAhead rest) || (inFlow && isFlowMark l.char)

def isClash (inFlow : Bool) : List Letter → Bool
  | a :: b :: _ => inFlow && a.char == ':' && (isFlowMark b.char || b.char == '?')
  | _ => false

def plainFrom? (inFlow : Bool) (indent : Int) (gap : Gap) (acc : List Char) :
    List Letter → Option (List Char × Bool × List Letter)
  | [] => some (acc.reverse, gap.broken, [])
  | l :: rest =>
    if isBlank l.char then
      if gap.broken ∧ l.char = '\t' ∧ (l.column : Int) < indent then none
      else plainFrom? inFlow indent (gap.addBlank l.char) acc rest
    else if isBreak l.char then plainFrom? inFlow indent (gap.addBreak l.char) acc rest
    else
      let fresh := acc.isEmpty || !gap.isEmpty
      let outdented := !inFlow && !gap.isEmpty && (l.column : Int) < indent
      if fresh && (outdented || l.char == '#' || isDocumentMark (l :: rest)) then
        some (acc.reverse, gap.broken, l :: rest)
      else if isClash inFlow (l :: rest) then none
      else if endsPlain inFlow (l :: rest) then some (acc.reverse, gap.broken, l :: rest)
      else plainFrom? inFlow indent {} (l.char :: (gap.textBackwards ++ acc)) rest

def escaped? (c : Char) : Option Char :=
  List.lookup c
    [('0', '\x00'), ('a', '\x07'), ('b', '\x08'), ('t', '\t'), ('\t', '\t'), ('n', '\n'), ('v', '\x0b'),
     ('f', '\x0c'), ('r', '\r'), ('e', '\x1b'), (' ', ' '), ('"', '"'), ('/', '/'), ('\\', '\\'),
     ('N', '\u0085'), ('_', '\u00a0'), ('L', '\u2028'), ('P', '\u2029')]

def escapeWidth? (c : Char) : Option Nat :=
  List.lookup c [('x', 2), ('u', 4), ('U', 8)]

def charOfCode? (n : Nat) : Option Char :=
  if h : n.isValidChar then some (Char.ofNatAux n h) else none

inductive QuotedMode where
  | text
  | quote
  | escape
  | code (left : Nat) (digits : List Char)

def quotedFrom? (single : Bool) (mode : QuotedMode) (gap : Gap) (acc : List Char) :
    List Letter → Option (List Char × List Letter)
  | [] => match mode with
    | .quote => some (acc.reverse, [])
    | _ => none
  | l :: rest =>
    match mode with
    | .quote =>
      if l.char = '\'' then quotedFrom? single .text {} ('\'' :: acc) rest else some (acc.reverse, l :: rest)
    | .escape =>
      if isBreak l.char then quotedFrom? single .text .swallowed acc rest
      else match escapeWidth? l.char with
        | some n => quotedFrom? single (.code n []) {} acc rest
        | none => do quotedFrom? single .text {} ((← escaped? l.char) :: acc) rest
    | .code left digits =>
      if (Unicode.hexDigit? l.char).isNone then none
      else if left = 1 then do
        let c ← charOfCode? (Unicode.hexValue (l.char :: digits).reverse)
        quotedFrom? single .text {} (c :: acc) rest
      else quotedFrom? single (.code (left - 1) (l.char :: digits)) {} acc rest
    | .text =>
      if isBlank l.char then quotedFrom? single .text (gap.addBlank l.char) acc rest
      else if isBreak l.char then quotedFrom? single .text (gap.addBreak l.char) acc rest
      else if isDocumentMark (l :: rest) then none
      else
        let acc := gap.textBackwards ++ acc
        if single && l.char == '\'' then quotedFrom? single .quote {} acc rest
        else if !single && l.char == '"' then some (acc.reverse, rest)
        else if !single && l.char == '\\' then quotedFrom? single .escape {} acc rest
        else quotedFrom? single .text {} (l.char :: acc) rest

inductive Chomp where
  | strip
  | clip
  | keep
deriving DecidableEq

def chomp? (c : Char) : Option Chomp :=
  if c = '+' then some .keep else if c = '-' then some .strip else none

def increment? (c : Char) : Option Nat :=
  if c.isDigit ∧ c ≠ '0' then some (c.toNat - 48) else none

def blockHeader (letters : List Letter) : Chomp × Option Nat × List Letter :=
  match letters with
  | [] => (.clip, none, [])
  | a :: rest =>
    match chomp? a.char, increment? a.char with
    | some c, _ =>
      match rest with
      | b :: after => match increment? b.char with
        | some n => (c, some n, after)
        | none => (c, none, rest)
      | [] => (c, none, [])
    | none, some n =>
      match rest with
      | b :: after => match chomp? b.char with
        | some c => (c, some n, after)
        | none => (.clip, some n, rest)
      | [] => (.clip, some n, [])
    | none, none => (.clip, none, letters)

/--
Takes indentation and empty lines up to the next line of the block: the breaks, the widest column reached and the
rest. Without a known indentation every space counts as one. A tab in the indentation is refused.
-/
def emptyLines? (indent : Option Nat) (widest : Nat) : List Letter → Option (List Char × Nat × List Letter)
  | [] => some ([], widest, [])
  | l :: rest =>
    let inside : Bool := match indent with
      | some n => l.column < n
      | none => true
    if l.char = ' ' ∧ inside then emptyLines? indent widest rest
    else if l.char = '\t' ∧ inside then none
    else if isBreak l.char then do
      let (breaks, w, rest) ← emptyLines? indent (max widest l.column) rest
      return (l.char :: breaks, w, rest)
    else some ([], max widest l.column, l :: rest)

structure Block where
  text : List Char := []
  last : Option Char := none
  empty : List Char := []
  /-- Does the last line begin with a blank? -/
  indented : Bool := false

/-- One line more. In folded text the break between two lines without indentation of their own is a space. -/
def Block.addLine (literal : Bool) (b : Block) (line : List Char) (ending : Option Char) (empty : List Char) : Block :=
  let indented := match line with
    | c :: _ => isBlank c
    | [] => false
  let joint :=
    if !literal && b.last = some '\n' && !b.indented && !indented then
      if b.empty.isEmpty then [' '] else b.empty
    else b.last.toList ++ b.empty
  { text := b.text ++ joint ++ line, last := ending, empty, indented }

def Block.finish (b : Block) (c : Chomp) : List Char :=
  match c with
  | .strip => b.text
  | .clip => b.text ++ b.last.toList
  | .keep => b.text ++ b.last.toList ++ b.empty

def blockLines? (literal : Bool) (indent : Nat) : Nat → Block → List Letter → Option (Block × List Letter)
  | 0, b, letters => some (b, letters)
  | _ + 1, b, [] => some (b, [])
  | fuel + 1, b, l :: rest =>
    if l.column ≠ indent then some (b, l :: rest) else do
      let (line, after) := spanLetters (!isBreak ·) (l :: rest)
      let (empty, _, next) ← emptyLines? (some indent) 0 after.tail
      blockLines? literal indent fuel (b.addLine literal line (after.head?.map (·.char)) empty) next

def blockFrom? (literal : Bool) (outer : Int) (letters : List Letter) : Option (List Char × List Letter) := do
  let (chomp, increment, rest) := blockHeader letters
  let body ← endOfLine? rest
  let given := increment.map fun n => outer.toNat + n
  let (empty, widest, next) ← emptyLines? given 0 body
  let indent := given.getD (max widest (max (outer + 1).toNat 1))
  let (b, next) ← blockLines? literal indent next.length { empty } next
  return (b.finish chomp, next)

end Rehearsal.Yaml
